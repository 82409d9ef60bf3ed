import MetricBatch.Proofs.Gate.Resizing
import MetricBatch.Proofs.Session.Runs

namespace MetricBatch

/-- A worker that has made its call, or will make none. -/
def Worker.HasPassed (w : Worker) : Prop := w.phase ≠ .created ∧ w.phase ≠ .waiting

namespace Session

open Gate

variable {setup : Setup} {s s' : Session} {i next : Nat} {w w' : Worker} {gate gate' : Gate Party}
  {workers : List Worker} {calls : List (Nat × Backend.Request)}

structure Queued (gate : Gate Party) (workers : List Worker) (next : Nat) : Prop where
  waiting : ∀ i : Nat, .worker i ∈ gate.callers → ∃ w, workers[i]? = some w ∧ w.phase = .waiting
  resizers : ∀ i : Nat, .worker i ∉ gate.resizers
  fresh : ∀ id : Nat, .resize id ∈ gate.callers ∨ .resize id ∈ gate.resizers → id < next

theorem Queued.not_caller (h : Queued gate workers next) (hw : workers[i]? = some w)
    (hp : w.phase ≠ .waiting) : .worker i ∉ gate.callers := by
  intro hc
  obtain ⟨x, hx, hwait⟩ := h.waiting i hc
  rw [hw, Option.some.injEq] at hx
  exact hp (hx ▸ hwait)

/-- A worker has come to the gate or has left it; the others are where they were. -/
theorem Queued.set (h : Queued gate workers next) (hw : workers[i]? = some w)
    (hcallers : ∀ c ∈ gate'.callers,
      c = .worker i ∧ w'.phase = .waiting ∨ c ≠ .worker i ∧ c ∈ gate.callers)
    (hresizers : gate'.resizers = gate.resizers) : Queued gate' (workers.set i w') next := by
  have hlt := (List.getElem?_eq_some_iff.mp hw).1
  refine ⟨?_, ?_, ?_⟩
  · intro j hj
    rcases hcallers _ hj with ⟨he, hwait⟩ | ⟨hne, hold⟩
    · rw [Party.worker.injEq] at he
      exact ⟨w', by simp [he, hlt], hwait⟩
    · have hij : i ≠ j := fun he => hne (by rw [he])
      rw [List.getElem?_set_ne hij]
      exact h.waiting j hold
  · rw [hresizers]
    exact h.resizers
  · intro id hid
    rw [hresizers] at hid
    apply h.fresh id
    rcases hid with hc | hr
    · rcases hcallers _ hc with ⟨he, _⟩ | ⟨_, hold⟩
      · cases he
      · exact .inl hold
    · exact .inr hr

/-- Changes of the capacity come and go. -/
theorem Queued.regate {next' : Nat} (h : Queued gate workers next) (hle : next ≤ next')
    (hcallers : ∀ c ∈ gate'.callers, c ∈ gate.callers ∨ ∃ id, id < next' ∧ c = .resize id)
    (hresizers : ∀ c ∈ gate'.resizers, c ∈ gate.resizers ∨ ∃ id, id < next' ∧ c = .resize id) :
    Queued gate' workers next' := by
  refine ⟨?_, ?_, ?_⟩
  · intro i hi
    rcases hcallers _ hi with hold | ⟨id, _, he⟩
    · exact h.waiting i hold
    · cases he
  · intro i hi
    rcases hresizers _ hi with hold | ⟨id, _, he⟩
    · exact h.resizers i hold
    · cases he
  · intro id hid
    have hnew (c : Party) (he : c = .resize id) (hc : ∃ id, id < next' ∧ c = .resize id) :
        id < next' := by
      obtain ⟨other, hlt, hother⟩ := hc
      rw [he, Party.resize.injEq] at hother
      rwa [hother]
    rcases hid with hc | hr
    · rcases hcallers _ hc with hold | hc
      · exact Nat.lt_of_lt_of_le (h.fresh id (.inl hold)) hle
      · exact hnew _ rfl hc
    · rcases hresizers _ hr with hold | hr
      · exact Nat.lt_of_lt_of_le (h.fresh id (.inr hold)) hle
      · exact hnew _ rfl hr

/-- Workers keep their places, their queries and their phases, and more may join them. -/
def Keeps (workers workers' : List Worker) : Prop :=
  ∀ (i : Nat) (w : Worker), workers[i]? = some w →
    ∃ w', workers'[i]? = some w' ∧ w'.phase = w.phase ∧ w'.query = w.query

theorem Queued.keeps {workers' : List Worker} (h : Queued gate workers next)
    (hk : Keeps workers workers') : Queued gate workers' next := by
  refine ⟨?_, h.resizers, h.fresh⟩
  intro i hi
  obtain ⟨w, hw, hwait⟩ := h.waiting i hi
  obtain ⟨w', hw', hp, _⟩ := hk i w hw
  exact ⟨w', hw', by rw [hp, hwait]⟩

/-- Every call is the only one of its worker, and asks for the worker's own query. -/
structure Recorded (setup : Setup) (workers : List Worker) (calls : List (Nat × Backend.Request)) :
    Prop where
  once : (calls.map (·.1)).Nodup
  own : ∀ c ∈ calls, ∃ w, workers[c.1]? = some w ∧ w.HasPassed ∧
    c.2 = w.query.request setup.url

theorem Recorded.set (h : Recorded setup workers calls) (hw : workers[i]? = some w)
    (hquery : w'.query = w.query) (hpassed : w.HasPassed → w'.HasPassed) :
    Recorded setup (workers.set i w') calls := by
  have hlt := (List.getElem?_eq_some_iff.mp hw).1
  refine ⟨h.once, ?_⟩
  intro c hc
  obtain ⟨x, hx, hp, hown⟩ := h.own c hc
  by_cases hi : i = c.1
  · rw [← hi, hw, Option.some.injEq] at hx
    subst hx
    exact ⟨w', by simp [← hi, hlt], hpassed hp, by rw [hown, hquery]⟩
  · exact ⟨x, by rw [List.getElem?_set_ne hi, hx], hp, hown⟩

theorem Recorded.keeps {workers' : List Worker} (h : Recorded setup workers calls)
    (hk : Keeps workers workers') : Recorded setup workers' calls := by
  refine ⟨h.once, ?_⟩
  intro c hc
  obtain ⟨w, hw, hpassed, hown⟩ := h.own c hc
  obtain ⟨w', hw', hp, hquery⟩ := hk c.1 w hw
  exact ⟨w', hw', by rwa [Worker.HasPassed, hp], by rw [hown, hquery]⟩

/-- A worker that has not made its call makes it. -/
theorem Recorded.call (h : Recorded setup workers calls) (hw : workers[i]? = some w)
    (hn : ¬w.HasPassed) (hquery : w'.query = w.query) (hpassed : w'.HasPassed) :
    Recorded setup (workers.set i w') (calls ++ [(i, w.query.request setup.url)]) := by
  have hlt := (List.getElem?_eq_some_iff.mp hw).1
  have hset := h.set hw hquery fun _ => hpassed
  refine ⟨?_, ?_⟩
  · have hnew : i ∉ calls.map (·.1) := by
      intro hm
      obtain ⟨c, hc, rfl⟩ := List.mem_map.mp hm
      obtain ⟨x, hx, hp, _⟩ := h.own c hc
      rw [hw, Option.some.injEq] at hx
      exact hn (hx ▸ hp)
    rw [List.map_append, List.map_cons, List.map_nil, ← List.concat_eq_append]
    exact h.once.concat hnew
  · intro c hc
    rcases List.mem_append.mp hc with hm | hm
    · exact hset.own c hm
    · rw [List.mem_singleton.mp hm]
      exact ⟨w', by simp [hlt], hpassed, by rw [hquery]⟩

theorem countP_set_lookup {α : Type} {p : α → Bool} {l : List α} {i : Nat} {a b : α}
    (hi : l[i]? = some a) :
    (l.set i b).countP p + (if p a then 1 else 0) = l.countP p + (if p b then 1 else 0) := by
  induction l generalizing i with
  | nil => simp at hi
  | cons x rest ih =>
    cases i with
    | zero =>
      simp only [List.getElem?_cons_zero, Option.some.injEq] at hi
      subst hi
      simp only [List.set_cons_zero, List.countP_cons]
      omega
    | succ i =>
      have hrest := ih (by simpa using hi)
      simp only [List.set_cons_succ, List.countP_cons]
      omega

structure Admitted (setup : Setup) (s : Session) : Prop where
  gate : s.gate.Balanced 0
  queued : Queued s.gate s.workers s.nextResize
  permits : ∀ w ∈ s.workers, w.permit = w.isCalling
  inFlight : s.callsInFlight = s.gate.inFlight
  total : s.calls.length = s.gate.total
  recorded : Recorded setup s.workers s.calls
  peak : s.peakCalls = s.gate.peak

theorem admitted_new (setup : Setup) (maxConcurrency : Nat) :
    (new setup maxConcurrency).Admitted setup := by
  refine ⟨balanced_new maxConcurrency, ⟨?_, ?_, ?_⟩, ?_, rfl, rfl, ⟨?_, ?_⟩, rfl⟩
  all_goals simp [new, Gate.new, Gate.callers, Gate.waiters, Gate.resizers]

theorem callsInFlight_set (s' : Session) (hw : s.workers[i]? = some w)
    (hs : s'.workers = s.workers.set i w') :
    s'.callsInFlight + (if w.isCalling then 1 else 0) =
      s.callsInFlight + (if w'.isCalling then 1 else 0) := by
  rw [callsInFlight, hs]
  exact countP_set_lookup hw

theorem permits_set (h : ∀ w ∈ workers, w.permit = w.isCalling)
    (hw : w'.permit = w'.isCalling) : ∀ w ∈ workers.set i w', w.permit = w.isCalling := by
  intro x hx
  rcases List.mem_or_eq_of_mem_set hx with hm | rfl
  · exact h x hm
  · exact hw

/-- A worker comes to the gate. -/
theorem Admitted.start (h : s.Admitted setup) (hw : s.workers[i]? = some w)
    (hp : w.phase = .created) : (s.start i w).Admitted setup := by
  have hnot := h.queued.not_caller hw (by simp [hp])
  obtain ⟨hres, _, hin, hpeak, htotal⟩ := request_frame s.gate (.worker i) 1
  have hcount := callsInFlight_set (s.start i w) hw rfl
  refine ⟨h.gate.request hnot (h.queued.resizers i), ?_, ?_, ?_, ?_, ?_, ?_⟩
  · refine h.queued.set hw ?_ (congrArg (List.map Resize.call) hres)
    intro c hc
    rcases List.mem_cons.mp ((request_callers s.gate (.worker i) 1).mem_iff.mp hc) with he | hm
    · exact .inl ⟨he, rfl⟩
    · exact .inr ⟨fun he => hnot (he ▸ hm), hm⟩
  · have hold := h.permits w (List.mem_of_getElem? hw)
    exact permits_set h.permits (by simpa [Worker.isCalling, hp] using hold)
  · have hflight := h.inFlight
    simp only [Worker.isCalling, hp] at hcount
    simpa [Session.start, note, setWorker, hin, hflight] using hcount
  · exact h.total.trans htotal.symm
  · exact h.recorded.set hw rfl fun hpassed => absurd hp hpassed.1
  · exact h.peak.trans hpeak.symm

/-- A worker goes on from the gate with its permit, and makes its call. -/
theorem Admitted.call (h : s.Admitted setup) (hw : s.workers[i]? = some w)
    (hp : w.phase = .waiting) (hg : s.gate.isGranted (.worker i) = true) :
    (s.call setup i w).Admitted setup := by
  have hcount := callsInFlight_set (s.call setup i w) hw rfl
  have hflight : (s.call setup i w).callsInFlight = s.gate.inFlight + 1 := by
    rw [← h.inFlight]
    simpa [Worker.isCalling, hp] using hcount
  refine ⟨h.gate.take hg (h.queued.resizers i), ?_, ?_, hflight, ?_, ?_, ?_⟩
  · refine h.queued.set hw (fun c hc => ?_) rfl
    obtain ⟨hm, hne⟩ := mem_take_callers.mp hc
    exact .inr ⟨hne, hm⟩
  · exact permits_set h.permits rfl
  · have htotal := h.total
    simp only [Session.call, note, setWorker, List.length_append, List.length_singleton, htotal]
    rfl
  · exact h.recorded.call hw (fun hpassed => hpassed.2 hp) rfl ⟨nofun, nofun⟩
  · have hpeak : (s.call setup i w).peakCalls =
        max s.peakCalls (s.call setup i w).callsInFlight := rfl
    rw [hpeak, hflight, h.peak]
    rfl

/-- A worker goes on to a point where its call, if it has made one, is over. -/
structure GoesOn (s s' : Session) (i : Nat) (w w' : Worker) : Prop where
  here : s.workers[i]? = some w
  workers : s'.workers = s.workers.set i w'
  calls : s'.calls = s.calls
  peakCalls : s'.peakCalls = s.peakCalls
  nextResize : s'.nextResize = s.nextResize
  query : w'.query = w.query
  passed : w'.HasPassed
  silent : w'.isCalling = false

/-- What the gate has to do for a worker that goes on. -/
theorem Admitted.goesOn (h : s.Admitted setup) (hs : GoesOn s s' i w w')
    (hgate : s'.gate.Balanced 0) (hcallers : ∀ c ∈ s'.gate.callers, c ≠ .worker i ∧ c ∈ s.gate.callers)
    (hresizers : s'.gate.resizers = s.gate.resizers) (hpermit : w'.permit = false)
    (hin : s'.gate.inFlight + (if w.isCalling then 1 else 0) = s.gate.inFlight)
    (htotal : s'.gate.total = s.gate.total) (hpeak : s'.gate.peak = s.gate.peak) :
    s'.Admitted setup := by
  have hcount := callsInFlight_set s' hs.here hs.workers
  have hflight := h.inFlight
  simp only [hs.silent, Bool.false_eq_true, ↓reduceIte] at hcount
  refine ⟨hgate, ?_, ?_, ?_, ?_, ?_, ?_⟩
  · rw [hs.workers, hs.nextResize]
    exact h.queued.set hs.here (fun c hc => .inr (hcallers c hc)) hresizers
  · rw [hs.workers]
    exact permits_set h.permits (by rw [hpermit, hs.silent])
  · omega
  · rw [hs.calls, htotal]
    exact h.total
  · rw [hs.calls, hs.workers]
    exact h.recorded.set hs.here hs.query fun _ => hs.passed
  · rw [hs.peakCalls, hpeak]
    exact h.peak

/-- A worker goes on that is neither at the gate nor calling. -/
theorem Admitted.inert (h : s.Admitted setup) (hs : GoesOn s s' i w w') (hgate : s'.gate = s.gate)
    (hp : w.phase ≠ .waiting) (hc : w.isCalling = false) (hpermit : w'.permit = w.permit) :
    s'.Admitted setup := by
  have hold := h.permits w (List.mem_of_getElem? hs.here)
  apply h.goesOn hs
  · rw [hgate]
    exact h.gate
  · intro c hm
    rw [hgate] at hm
    exact ⟨fun he => h.queued.not_caller hs.here hp (he ▸ hm), hm⟩
  · rw [hgate]
  · rw [hpermit, hold, hc]
  · simp [hgate, hc]
  · rw [hgate]
  · rw [hgate]

/-- A worker's call is over, and its permit goes back. -/
theorem Admitted.release (h : s.Admitted setup) (hs : GoesOn s s' i w w')
    (hgate : s'.gate = s.gate.release) (hc : w.isCalling = true) (hpermit : w'.permit = false) :
    s'.Admitted setup := by
  have hp : w.phase ≠ .waiting := by
    intro hp
    simp [Worker.isCalling, hp] at hc
  have hpos : 0 < s.gate.inFlight := by
    rw [← h.inFlight]
    exact List.countP_pos_iff.mpr ⟨w, List.mem_of_getElem? hs.here, hc⟩
  apply h.goesOn hs
  · rw [hgate]
    exact h.gate.release hpos
  · intro c hm
    rw [hgate, Gate.release, addPermits_callers] at hm
    exact ⟨fun he => h.queued.not_caller hs.here hp (he ▸ hm), hm⟩
  · rw [hgate]
    rfl
  · exact hpermit
  · simp only [hgate, hc, Gate.release, addPermits_eq, ↓reduceIte]
    omega
  · rw [hgate]
    rfl
  · rw [hgate]
    rfl

/-- A worker gives up waiting. -/
theorem Admitted.withdraw (h : s.Admitted setup) (hs : GoesOn s s' i w w')
    (hgate : s'.gate = s.gate.withdraw (.worker i)) (hp : w.phase = .waiting)
    (hpermit : w'.permit = w.permit) : s'.Admitted setup := by
  have hold := h.permits w (List.mem_of_getElem? hs.here)
  have hc : w.isCalling = false := by simp [Worker.isCalling, hp]
  apply h.goesOn hs
  · rw [hgate]
    exact h.gate.withdraw (h.queued.resizers i)
  · intro c hm
    rw [hgate] at hm
    obtain ⟨hm, hne⟩ := mem_withdraw_callers.mp hm
    exact ⟨hne, hm⟩
  · rw [hgate]
    rfl
  · rw [hpermit, hold, hc]
  · rw [hgate, hc]
    rfl
  · rw [hgate]
    rfl
  · rw [hgate]
    rfl

theorem Admitted.proceed (h : s.Admitted setup) (i : Nat) : (s.proceed setup i).Admitted setup := by
  rcases proceed_cases setup s i with ⟨he, _⟩ | ⟨w, hw, hs⟩
  · rwa [he]
  · generalize s.proceed setup i = s' at hs ⊢
    cases hs with
    | start hp => exact h.start hw hp
    | call hp hg => exact h.call hw hp hg
    | hangUp hp =>
      exact h.release ⟨hw, rfl, rfl, rfl, rfl, rfl, ⟨nofun, nofun⟩, rfl⟩ rfl
        (by simp [Worker.isCalling, hp]) rfl
    | digest hp =>
      have hn : w.phase ≠ .waiting := by simp [hp]
      have hc : w.isCalling = false := by simp [Worker.isCalling, hp]
      unfold Session.digest
      dsimp only
      split
      · exact h.inert ⟨hw, rfl, rfl, rfl, rfl, rfl, ⟨nofun, nofun⟩, rfl⟩ rfl hn hc rfl
      · exact h.inert ⟨hw, rfl, rfl, rfl, rfl, rfl, ⟨nofun, nofun⟩, rfl⟩ rfl hn hc rfl
      · exact h.inert ⟨hw, rfl, rfl, rfl, rfl, rfl, ⟨nofun, nofun⟩, rfl⟩ rfl hn hc rfl
    | @publish results hp =>
      have hkept : (w.publish results).query = w.query ∧ (w.publish results).permit = w.permit := by
        unfold Worker.publish
        split <;> exact ⟨rfl, rfl⟩
      exact h.inert ⟨hw, rfl, rfl, rfl, rfl, hkept.1, ⟨nofun, nofun⟩, rfl⟩ rfl (by simp [hp])
        (by simp [Worker.isCalling, hp]) hkept.2
    | leave hp =>
      have hn : w.phase ≠ .waiting := by simp [hp]
      have hc : w.isCalling = false := by simp [Worker.isCalling, hp]
      unfold Session.leave
      dsimp only
      split
      · exact h.inert ⟨hw, rfl, rfl, rfl, rfl, rfl, ⟨nofun, nofun⟩, rfl⟩ rfl hn hc rfl
      · exact h.inert ⟨hw, rfl, rfl, rfl, rfl, rfl, ⟨nofun, nofun⟩, rfl⟩ rfl hn hc rfl
    | close hp =>
      exact h.inert ⟨hw, rfl, rfl, rfl, rfl, rfl, ⟨nofun, nofun⟩, rfl⟩ rfl (by simp [hp])
        (by simp [Worker.isCalling, hp]) rfl

theorem Admitted.poll (h : s.Admitted setup) (i : Nat) : (s.poll setup i).Admitted setup :=
  proceedIn_preserves (fun _ hs => hs.proceed i) 7 h

theorem Admitted.interrupt (h : s.Admitted setup) (i : Nat) : (s.interrupt i).Admitted setup := by
  rcases interrupt_cases s i with ⟨he, _⟩ | ⟨w, hw, hs⟩
  · rwa [he]
  · generalize s.interrupt i = s' at hs ⊢
    cases hs with
    | created hp =>
      exact h.inert ⟨hw, rfl, rfl, rfl, rfl, rfl, ⟨nofun, nofun⟩, rfl⟩ rfl (by simp [hp])
        (by simp [Worker.isCalling, hp]) rfl
    | waiting hp =>
      exact h.withdraw ⟨hw, rfl, rfl, rfl, rfl, rfl, ⟨nofun, nofun⟩, rfl⟩ rfl hp rfl
    | calling hp =>
      exact h.release ⟨hw, rfl, rfl, rfl, rfl, rfl, ⟨nofun, nofun⟩, rfl⟩ rfl
        (by simp [Worker.isCalling, hp]) rfl

theorem spawn_keeps (s : Session) (query : Query) : Keeps s.workers (s.spawn query).workers := by
  intro i w hw
  have hlt := (List.getElem?_eq_some_iff.mp hw).1
  exact ⟨w, by rw [Session.spawn, List.getElem?_append_left hlt, hw], rfl, rfl⟩

theorem discard_keeps (s : Session) (i : Nat) : Keeps s.workers (s.discard i).workers := by
  intro j w hw
  rw [Session.discard, List.getElem?_modify, hw]
  by_cases hj : i = j
  · exact ⟨{ w with wanted := false }, by simp [hj], rfl, rfl⟩
  · exact ⟨w, by simp [hj], rfl, rfl⟩

theorem Admitted.spawn (h : s.Admitted setup) (query : Query) :
    (s.spawn query).Admitted setup := by
  have hkeeps := spawn_keeps s query
  refine ⟨h.gate, h.queued.keeps hkeeps, ?_, ?_, h.total, h.recorded.keeps hkeeps, h.peak⟩
  · intro w hw
    rcases List.mem_append.mp hw with hm | hm
    · exact h.permits w hm
    · rw [List.mem_singleton.mp hm]
      rfl
  · have hflight := h.inFlight
    simp only [callsInFlight] at hflight
    simpa [callsInFlight, Session.spawn, Worker.new, Worker.isCalling] using hflight

theorem Admitted.discard (h : s.Admitted setup) (i : Nat) : (s.discard i).Admitted setup := by
  have hkeeps := discard_keeps s i
  refine ⟨h.gate, h.queued.keeps hkeeps, ?_, ?_, h.total, h.recorded.keeps hkeeps, h.peak⟩
  · intro w hw
    obtain ⟨j, hj⟩ := List.mem_iff_getElem?.mp hw
    obtain ⟨x, hx, he⟩ := discard_lookup hj
    have hpermit := h.permits x (List.mem_of_getElem? hx)
    rcases he with rfl | rfl <;> exact hpermit
  · have hsame := discard_map (f := Worker.isCalling) (fun _ => rfl) s i
    have hcount := congrArg (List.countP id) hsame
    simp only [List.countP_map, Function.id_comp] at hcount
    exact hcount.trans h.inFlight

/-- The gate is told of changes of the capacity. -/
theorem Admitted.regate (h : s.Admitted setup) {gate : Gate Party} (next : Nat)
    (hgate : gate.Balanced 0) (hqueued : Queued gate s.workers next)
    (hin : gate.inFlight = s.gate.inFlight) (hpeak : gate.peak = s.gate.peak)
    (htotal : gate.total = s.gate.total) :
    { s with gate, nextResize := next }.Admitted setup :=
  ⟨hgate, hqueued, h.permits, h.inFlight.trans hin.symm, h.total.trans htotal.symm, h.recorded,
    h.peak.trans hpeak.symm⟩

theorem Admitted.startResize (h : s.Admitted setup) (target : Nat) :
    (s.startResize target).Admitted setup := by
  unfold Session.startResize
  split
  · rename_i hv
    have hcaller : .resize s.nextResize ∉ s.gate.callers :=
      fun hc => Nat.lt_irrefl _ (h.queued.fresh _ (.inl hc))
    have hresizer : .resize s.nextResize ∉ s.gate.resizers :=
      fun hr => Nat.lt_irrefl _ (h.queued.fresh _ (.inr hr))
    apply h.regate (s.nextResize + 1) (h.gate.startResize hcaller hresizer hv) _ rfl rfl rfl
    apply h.queued.regate (Nat.le_succ _)
    · exact fun c hc => .inl hc
    · intro c hc
      rw [startResize_resizers] at hc
      rcases List.mem_append.mp hc with hm | hm
      · exact .inl hm
      · exact .inr ⟨_, Nat.lt_succ_self _, List.mem_singleton.mp hm⟩
  · exact h

theorem Admitted.pollResize (h : s.Admitted setup) (id : Nat) :
    (s.pollResize id).1.Admitted setup := by
  obtain ⟨hin, hpeak, htotal⟩ := advanceResize_counters s.gate (.resize id)
  have hresizers : ∀ c ∈ (s.gate.advanceResize (.resize id)).1.resizers, c ∈ s.gate.resizers :=
    fun _ hc => advanceResize_resizers hc
  have hgate := h.regate s.nextResize (h.gate.advanceResize (.resize id))
    (h.queued.regate (Nat.le_refl _) ?_ fun c hc => .inl (hresizers c hc)) hin hpeak htotal
  · exact ⟨hgate.gate, hgate.queued, hgate.permits, hgate.inFlight, hgate.total, hgate.recorded,
      hgate.peak⟩
  · intro c hc
    rcases advanceResize_callers hc with hold | ⟨he, hm⟩
    · exact .inl hold
    · exact .inr ⟨id, h.queued.fresh id (.inr (hresizers _ hm)), he⟩

theorem Admitted.dropResize (h : s.Admitted setup) (id : Nat) :
    (s.dropResize id).Admitted setup := by
  apply h.regate s.nextResize (h.gate.cancel (.resize id)) _ rfl rfl rfl
  apply h.queued.regate (Nat.le_refl _)
  · exact fun c hc => .inl (mem_cancel_callers.mp hc).1
  · intro c hc
    obtain ⟨r, hr, rfl⟩ := List.mem_map.mp hc
    exact .inl (List.mem_map.mpr ⟨r, (mem_cancel_resizes.mp hr).1, rfl⟩)

theorem Admitted.pass (h : s.Admitted setup) (millis : Nat) :
    (s.pass setup millis).Admitted setup := by
  unfold Session.pass
  split
  · exact ⟨h.gate, h.queued, h.permits, h.inFlight, h.total, h.recorded, h.peak⟩
  · exact h

theorem Admitted.move (h : s.Admitted setup) (hr : s.Rested) (m : Move) :
    (s.move setup m).Admitted setup := by
  cases m with
  | submit query => exact h.spawn query
  | poll i => exact h.poll i
  | dropTask i =>
    simp only [Session.move, dropTask_eq setup (hr i)]
    exact proceedIn_preserves (fun _ hs => hs.proceed i) 2 (h.interrupt i)
  | startResize target => exact h.startResize target
  | pollResize id => exact h.pollResize id
  | dropResize id => exact h.dropResize id
  | pass millis => exact h.pass millis
  | take i =>
    simp only [Session.move]
    rcases take_eq s i with he | ⟨events, he⟩
    · rwa [he]
    · have hd := h.discard i
      rw [he]
      exact ⟨hd.gate, hd.queued, hd.permits, hd.inFlight, hd.total, hd.recorded, hd.peak⟩
  | discard i => exact h.discard i

theorem admitted_moves (h : s.Admitted setup) (hr : s.Rested) (moves : List Move) :
    (moves.foldl (move setup) s).Admitted setup := by
  induction moves generalizing s with
  | nil => exact h
  | cons m rest ih => exact ih (h.move hr m) (hr.move m)

theorem admitted_after (setup : Setup) (maxConcurrency : Nat) (moves : List Move) :
    (after setup maxConcurrency moves).Admitted setup :=
  admitted_moves (admitted_new setup maxConcurrency) (rested_new setup maxConcurrency) moves

end Session

end MetricBatch
