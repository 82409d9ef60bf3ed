import MetricBatch.Session.Thread
import MetricBatch.Proofs.Gate.Settling
import MetricBatch.Proofs.Session.Quiet

namespace MetricBatch.Session

open Gate

variable {setup : Setup} {s s' : Session} {before : Nat → Nat → Prop} {out : Option Nat}
  {i j : Nat} {w : Worker}

/-- The workers at a gate, in the order of the line there. -/
def workersAt (g : Gate Party) : List Nat := g.callers.filterMap Party.worker?

/-- The workers that have asked for their permits and have not left without them: those that have
made their calls, in the order of the calls, and behind them those that wait. -/
def line (s : Session) : List Nat := s.calls.map (·.1) ++ workersAt s.gate

/-- A worker that has been submitted and has not run. -/
def IsNew (s : Session) (i : Nat) : Prop := ∃ w, s.workers[i]? = some w ∧ w.phase = .created

/-- A worker that has its permit and has not run since. -/
def IsGranted (s : Session) (i : Nat) : Prop := s.gate.isGranted (.worker i) = true

/-- A worker that waits for its permit. -/
def IsQueued (s : Session) (i : Nat) : Prop := i ∈ workersAt s.gate ∧ ¬s.IsGranted i

theorem mem_workersAt {g : Gate Party} : i ∈ workersAt g ↔ .worker i ∈ g.callers := by
  rw [workersAt, List.mem_filterMap]
  constructor
  · rintro ⟨c, hc, hi⟩
    cases c with
    | worker k =>
      obtain rfl : k = i := by simpa [Party.worker?] using hi
      exact hc
    | resize id => simp [Party.worker?] at hi
  · exact fun hi => ⟨_, hi, rfl⟩

theorem IsGranted.at_gate (h : s.IsGranted i) : i ∈ workersAt s.gate :=
  mem_workersAt.mpr (granted_caller h)

/-- Whoever is at the gate has its permit or waits for it. -/
theorem granted_or_queued (h : i ∈ workersAt s.gate) : s.IsGranted i ∨ s.IsQueued i :=
  (Classical.em (s.IsGranted i)).imp_right fun hn => ⟨h, hn⟩

/-- Whoever has its permit stands before whoever waits. -/
theorem before_queued (h : (workersAt s.gate).Pairwise (· < ·)) (hi : s.IsGranted i)
    (hj : s.IsQueued j) : i < j := by
  have hall : s.gate.callers.Pairwise fun a b =>
      ∀ k, a.worker? = some k → ∀ l, b.worker? = some l → k < l := by
    simpa [workersAt, List.pairwise_filterMap] using h
  exact before_queue hall hi (mem_workersAt.mp hj.1) (Bool.not_eq_true _ ▸ hj.2) i rfl j rfl

theorem Admitted.waits (h : s.Admitted setup) (hi : i ∈ workersAt s.gate) :
    ∃ w, s.workers[i]? = some w ∧ w.phase = .waiting :=
  h.queued.waiting i (mem_workersAt.mp hi)

theorem Admitted.gate_lt (h : s.Admitted setup) (hi : i ∈ workersAt s.gate) :
    i < s.workers.length := by
  obtain ⟨w, hw, _⟩ := h.waits hi
  exact (List.getElem?_eq_some_iff.mp hw).1

theorem Admitted.line_lt (h : s.Admitted setup) (hi : i ∈ s.line) : i < s.workers.length := by
  rcases List.mem_append.mp hi with hm | hm
  · obtain ⟨c, hc, rfl⟩ := List.mem_map.mp hm
    obtain ⟨w, hw, _⟩ := h.recorded.own c hc
    exact (List.getElem?_eq_some_iff.mp hw).1
  · exact h.gate_lt hm

/-- A worker that is new has not come to the gate. -/
theorem Admitted.not_at_gate (h : s.Admitted setup) (hi : s.IsNew i) : i ∉ workersAt s.gate := by
  intro hm
  obtain ⟨w, hw, hp⟩ := hi
  obtain ⟨x, hx, hwaits⟩ := h.waits hm
  rw [hw, Option.some.injEq] at hx
  rw [hx, hwaits] at hp
  cases hp

theorem IsNew.lt (h : s.IsNew i) : i < s.workers.length := by
  obtain ⟨w, hw, _⟩ := h
  exact (List.getElem?_eq_some_iff.mp hw).1

/-- Some leave the line, nobody gets ahead in it, no call is made, and who is new is new. -/
structure Recedes (s s' : Session) : Prop where
  calls : s'.calls = s.calls
  length : s.workers.length ≤ s'.workers.length
  gate : (workersAt s'.gate).Sublist (workersAt s.gate)
  granted : ∀ i, s.IsGranted i → i ∈ workersAt s'.gate → s'.IsGranted i
  created : ∀ i, s'.IsNew i → s.IsNew i ∨ s.workers.length ≤ i

theorem Recedes.refl (s : Session) : s.Recedes s :=
  ⟨rfl, Nat.le_refl _, List.Sublist.refl _, fun _ h _ => h, fun _ h => .inl h⟩

theorem Recedes.trans {s'' : Session} (h : s.Recedes s') (h' : s'.Recedes s'') :
    s.Recedes s'' := by
  refine ⟨h'.calls.trans h.calls, Nat.le_trans h.length h'.length, h'.gate.trans h.gate, ?_, ?_⟩
  · exact fun i hi hm => h'.granted i (h.granted i hi (h'.gate.subset hm)) hm
  · intro i hi
    rcases h'.created i hi with hnew | hle
    · exact h.created i hnew
    · exact .inr (Nat.le_trans h.length hle)

theorem Recedes.line (h : s.Recedes s') : s'.line.Sublist s.line := by
  rw [Session.line, Session.line, h.calls]
  exact (List.Sublist.refl _).append h.gate

/-- A permit that is given back goes to whoever waits first. -/
theorem recedes_of_release (hcalls : s'.calls = s.calls) (hgate : s'.gate = s.gate.release)
    (hlength : s.workers.length ≤ s'.workers.length)
    (hnew : ∀ i, s'.IsNew i → s.IsNew i ∨ s.workers.length ≤ i) : s.Recedes s' := by
  refine ⟨hcalls, hlength, ?_, ?_, hnew⟩
  · have hcallers : s.gate.release.callers = s.gate.callers := addPermits_callers _ _
    rw [hgate, workersAt, hcallers, workersAt]
  · intro i hi _
    rw [IsGranted, hgate]
    exact granted_addPermits (g := { s.gate with inFlight := _ }) hi 1

/-- What a turn does to all workers but one: nobody of them asks for its permit, and only those get
permits that wait. -/
structure Beside (s s' : Session) (out : Option Nat) : Prop where
  length : s.workers.length ≤ s'.workers.length
  created : ∀ i, out ≠ some i → s'.IsNew i → s.IsNew i ∨ s.workers.length ≤ i
  granted : ∀ i, out ≠ some i → s'.IsGranted i → s.IsGranted i ∨ s.IsQueued i
  queued : ∀ i, out ≠ some i → s'.IsQueued i → s.IsQueued i

theorem Recedes.beside (h : s.Recedes s') (out : Option Nat) : s.Beside s' out := by
  refine ⟨h.length, fun i _ hi => h.created i hi, ?_, ?_⟩
  · exact fun i _ hi => granted_or_queued (h.gate.subset hi.at_gate)
  · exact fun i _ hi => ⟨h.gate.subset hi.1, fun hg => hi.2 (h.granted i hg hi.1)⟩

theorem Beside.trans {s'' : Session} (h : s.Beside s' out) (h' : s'.Beside s'' out) :
    s.Beside s'' out := by
  refine ⟨Nat.le_trans h.length h'.length, ?_, ?_, ?_⟩
  · intro i ho hi
    rcases h'.created i ho hi with hnew | hle
    · exact h.created i ho hnew
    · exact .inr (Nat.le_trans h.length hle)
  · intro i ho hi
    rcases h'.granted i ho hi with hg | hq
    · exact h.granted i ho hg
    · exact .inr (h.queued i ho hq)
  · exact fun i ho hi => h.queued i ho (h'.queued i ho hi)

/-- The line is in the order of submission. The calls are so too, but for calls of workers that had
not run when an earlier one was granted its permit, of which `before` tells. -/
structure InLine (before : Nat → Nat → Prop) (s : Session) : Prop where
  gate : (workersAt s.gate).Pairwise (· < ·)
  created : ∀ i ∈ s.line, ∀ j, s.IsNew j → i < j
  queued : ∀ i ∈ s.calls.map (·.1), ∀ j, s.IsQueued j → i < j
  calls : (s.calls.map (·.1)).Pairwise fun i j => i < j ∨ before j i
  granted : ∀ i ∈ s.calls.map (·.1), ∀ j, s.IsGranted j → i < j ∨ before j i

theorem inLine_new (setup : Setup) (maxConcurrency : Nat) :
    (new setup maxConcurrency).InLine before := by
  refine ⟨List.Pairwise.nil, ?_, ?_, List.Pairwise.nil, ?_⟩ <;>
    simp [new, line, workersAt, Gate.new, callers, waiters]

theorem InLine.weaken {before' : Nat → Nat → Prop} (h : s.InLine before)
    (hb : ∀ i j, before i j → before' i j) : s.InLine before' :=
  ⟨h.gate, h.created, h.queued, h.calls.imp fun hij => hij.imp_right (hb _ _),
    fun i hi j hj => (h.granted i hi j hj).imp_right (hb _ _)⟩

theorem InLine.recede (h : s.InLine before) (ha : s.Admitted setup) (hs : s.Recedes s') :
    s'.InLine before := by
  have hb := hs.beside none
  refine ⟨h.gate.sublist hs.gate, ?_, ?_, ?_, ?_⟩
  · intro i hi j hj
    rcases hs.created j hj with hnew | hle
    · exact h.created i (hs.line.subset hi) j hnew
    · exact Nat.lt_of_lt_of_le (ha.line_lt (hs.line.subset hi)) hle
  · intro i hi j hj
    exact h.queued i (hs.calls ▸ hi) j (hb.queued j nofun hj)
  · rw [hs.calls]
    exact h.calls
  · intro i hi j hj
    rcases hb.granted j nofun hj with hg | hq
    · exact h.granted i (hs.calls ▸ hi) j hg
    · exact .inl (h.queued i (hs.calls ▸ hi) j hq)

/-- A worker that may run: nobody is new that was submitted before, and who has its permit was
submitted later or was granted it while this one was new. -/
structure Front (before : Nat → Nat → Prop) (s : Session) (i : Nat) : Prop where
  created : s.IsNew i → ∀ j, s.IsNew j → i ≤ j
  granted : s.IsNew i ∨ s.IsGranted i → ∀ j, j ≠ i → s.IsGranted j → i < j ∨ before j i

/-- A worker past the gate is neither new nor at the gate. -/
theorem Admitted.passed_away (h : s.Admitted setup)
    (hw : ∀ w, s.workers[i]? = some w → w.HasPassed) : ¬s.IsNew i ∧ i ∉ workersAt s.gate := by
  constructor
  · rintro ⟨w, hx, hp⟩
    exact (hw w hx).1 hp
  · intro hm
    obtain ⟨w, hx, hp⟩ := h.waits hm
    exact (hw w hx).2 hp

theorem front_passed (h : s.Admitted setup) (hw : ∀ w, s.workers[i]? = some w → w.HasPassed) :
    s.Front before i := by
  obtain ⟨hnew, hgate⟩ := h.passed_away hw
  have hgranted : ¬s.IsGranted i := fun hg => hgate hg.at_gate
  exact ⟨fun hi => absurd hi hnew, fun hi => absurd hi (not_or.mpr ⟨hnew, hgranted⟩)⟩

/-- Nobody gets new by running on. -/
theorem Changes.isNew {w' : Worker} {errors : List QueryError} (h : Changes s s' i w w' errors)
    (hp : w'.phase ≠ .created) (hj : s'.IsNew j) : j ≠ i ∧ s.IsNew j := by
  obtain ⟨x, hx, hc⟩ := hj
  rcases h.lookup hx with ⟨_, rfl⟩ | ⟨hne, hold⟩
  · exact absurd hc hp
  · exact ⟨hne, x, hold, hc⟩

theorem Changes.length {w' : Worker} {errors : List QueryError} (h : Changes s s' i w w' errors) :
    s'.workers.length = s.workers.length := by
  rw [h.workers, List.length_set]

theorem Proceeds.isNew (hw : s.workers[i]? = some w) (hs : Proceeds setup s i w s')
    (hj : s'.IsNew j) : j ≠ i ∧ s.IsNew j := by
  obtain ⟨w', errors, hc, hstep⟩ := hs.changes hw
  refine hc.isNew ?_ hj
  intro hp
  have hless := hstep.remaining
  rw [hp] at hless
  exact absurd hless (Nat.not_lt.mpr w.phase.remaining_le)

theorem Proceeds.length (hw : s.workers[i]? = some w) (hs : Proceeds setup s i w s') :
    s'.workers.length = s.workers.length := by
  obtain ⟨w', errors, hc, _⟩ := hs.changes hw
  exact hc.length

/-- A worker that has come to the gate and runs on is past it. -/
theorem Proceeds.passed (hw : s.workers[i]? = some w) (hp : w.phase ≠ .created)
    (hs : Proceeds setup s i w s') : ∀ x, s'.workers[i]? = some x → x.HasPassed := by
  intro x hx
  obtain ⟨w', errors, hc, hstep⟩ := hs.changes hw
  rw [hc.same, Option.some.injEq] at hx
  subst hx
  have hless := hstep.remaining
  have hle : w.phase.remaining ≤ 6 := by
    cases hphase : w.phase with
    | created => exact absurd hphase hp
    | waiting | calling | digesting | publishing | leaving | closing | ended =>
      simp [Phase.remaining]
  have hcreated : Phase.created.remaining = 7 := rfl
  have hwaiting : Phase.waiting.remaining = 6 := rfl
  constructor
  · intro he
    rw [he] at hless
    omega
  · intro he
    rw [he] at hless
    omega

/-- A worker past the gate does not come back to it. -/
theorem Proceeds.recedes (hw : s.workers[i]? = some w) (hp : w.HasPassed)
    (hs : Proceeds setup s i w s') : s.Recedes s' := by
  have hlength := Nat.le_of_eq (hs.length hw).symm
  have hnew (j : Nat) (hj : s'.IsNew j) : s.IsNew j ∨ s.workers.length ≤ j :=
    .inl (hs.isNew hw hj).2
  have hinert (hcalls : s'.calls = s.calls) (hgate : s'.gate = s.gate) : s.Recedes s' :=
    ⟨hcalls, hlength, hgate ▸ List.Sublist.refl _,
      fun j hj _ => by rwa [IsGranted, hgate], hnew⟩
  cases hs with
  | start hc => exact absurd hc hp.1
  | call hc => exact absurd hc hp.2
  | hangUp => exact recedes_of_release rfl rfl hlength hnew
  | digest =>
    refine hinert ?_ (digest_gate ..)
    unfold Session.digest
    dsimp only
    split <;> rfl
  | publish => exact hinert rfl rfl
  | leave =>
    refine hinert ?_ (leave_gate ..)
    unfold Session.leave
    dsimp only
    split <;> rfl
  | close => exact hinert rfl rfl

/-- A worker that comes to the gate goes to the end of the line. -/
theorem Admitted.start_gate (h : s.Admitted setup) (i : Nat) (w : Worker) :
    workersAt (s.start i w).gate = workersAt s.gate ++ [i] := by
  have hcallers := h.gate.request_line (.worker i) Nat.one_pos
  simp [workersAt, Session.start, note, setWorker, hcallers, Party.worker?]

theorem Admitted.start_beside (h : s.Admitted setup) (hw : s.workers[i]? = some w)
    (hp : w.phase = .created) : s.Beside (s.start i w) (some i) := by
  have hs : Proceeds setup s i w (s.start i w) := .start hp
  have hback (j : Nat) (hj : some i ≠ some j) (hm : j ∈ workersAt (s.start i w).gate) :
      j ∈ workersAt s.gate := by
    rw [h.start_gate] at hm
    refine (List.mem_append.mp hm).resolve_right fun he => hj ?_
    rw [List.mem_singleton.mp he]
  refine ⟨Nat.le_of_eq (hs.length hw).symm, fun j _ hj => .inl (hs.isNew hw hj).2, ?_, ?_⟩
  · exact fun j ho hj => granted_or_queued (hback j ho hj.at_gate)
  · exact fun j ho hj => ⟨hback j ho hj.1, fun hg => hj.2 (granted_request hg _ _)⟩

/-- Asking for a permit gives none to anybody else. -/
theorem start_granted (hj : (s.start i w).IsGranted j) : j = i ∨ s.IsGranted j := by
  have hg : (s.gate.request (.worker i) 1).isGranted (.worker j) = true := hj
  obtain ⟨x, hx, hcall⟩ := isGranted_iff.mp hg
  unfold Gate.request at hx
  split at hx
  · rcases List.mem_append.mp hx with hm | hm
    · exact .inr (isGranted_iff.mpr ⟨x, hm, hcall⟩)
    · rw [List.mem_singleton.mp hm, Party.worker.injEq] at hcall
      exact .inl hcall.symm
  · exact .inr (isGranted_iff.mpr ⟨x, hx, hcall⟩)

theorem start_isNew (hw : s.workers[i]? = some w) (hj : (s.start i w).IsNew j) :
    j ≠ i ∧ s.IsNew j := by
  have hc : Changes s (s.start i w) i w { w with phase := .waiting } [] :=
    changes_silent hw rfl rfl rfl
  exact hc.isNew nofun hj

theorem Front.start (hf : s.Front before i) (hw : s.workers[i]? = some w)
    (hp : w.phase = .created) : (s.start i w).Front before i := by
  constructor
  · exact fun hi => absurd rfl (start_isNew hw hi).1
  · intro _ j hne hj
    exact hf.granted (.inl ⟨w, hw, hp⟩) j hne ((start_granted hj).resolve_left hne)

theorem InLine.start (h : s.InLine before) (ha : s.Admitted setup) (hf : s.Front before i)
    (hw : s.workers[i]? = some w) (hp : w.phase = .created) : (s.start i w).InLine before := by
  have hi : s.IsNew i := ⟨w, hw, hp⟩
  have hlast (j : Nat) (hj : j ∈ s.calls.map (·.1)) : j < i :=
    h.created j (List.mem_append_left _ hj) i hi
  refine ⟨?_, ?_, ?_, h.calls, ?_⟩
  · rw [ha.start_gate]
    refine List.pairwise_append.mpr ⟨h.gate, List.pairwise_singleton _ _, ?_⟩
    intro j hj k hk
    rw [List.mem_singleton.mp hk]
    exact h.created j (List.mem_append_right _ hj) i hi
  · intro j hj k hk
    obtain ⟨hne, hnew⟩ := start_isNew hw hk
    rw [line, ha.start_gate, ← List.append_assoc] at hj
    rcases List.mem_append.mp hj with hm | hm
    · exact h.created j hm k hnew
    · rw [List.mem_singleton.mp hm]
      exact Nat.lt_of_le_of_ne (hf.created hi k hnew) hne.symm
  · intro j hj k hk
    by_cases hki : k = i
    · exact hki ▸ hlast j hj
    · exact h.queued j hj k ((ha.start_beside hw hp).queued k (by simp [Ne.symm hki]) hk)
  · intro j hj k hk
    rcases start_granted hk with rfl | hg
    · exact .inl (hlast j hj)
    · exact h.granted j hj k hg

theorem call_gate (setup : Setup) (s : Session) (i : Nat) (w : Worker) :
    workersAt (s.call setup i w).gate = (workersAt s.gate).filter (· != i) := by
  have hcallers : (s.call setup i w).gate.callers = s.gate.callers.filter (· != .worker i) :=
    remove_line s.gate (.worker i)
  rw [workersAt, hcallers, workersAt, List.filter_filterMap, List.filterMap_filter]
  congr 1
  funext c
  cases c with
  | worker k => by_cases hk : k = i <;> simp [Party.worker?, Option.filter, hk]
  | resize id => simp [Party.worker?]

theorem mem_call_gate : j ∈ workersAt (s.call setup i w).gate ↔ j ∈ workersAt s.gate ∧ j ≠ i := by
  simp [call_gate]

/-- Who has its permit keeps it when another worker makes its call. -/
theorem call_granted (hj : s.IsGranted j) (hne : j ≠ i) : (s.call setup i w).IsGranted j :=
  granted_remove hj (by simpa using hne)

theorem call_granted_back (hj : (s.call setup i w).IsGranted j) : s.IsGranted j := by
  obtain ⟨x, hx, hcall⟩ := isGranted_iff.mp hj
  exact isGranted_iff.mpr ⟨x, (mem_removeCall.mp hx).1, hcall⟩

theorem call_beside (hw : s.workers[i]? = some w) (hp : w.phase = .waiting)
    (hg : s.gate.isGranted (.worker i) = true) : s.Beside (s.call setup i w) (some i) := by
  have hs : Proceeds setup s i w (s.call setup i w) := .call hp hg
  refine ⟨Nat.le_of_eq (hs.length hw).symm, fun j _ hj => .inl (hs.isNew hw hj).2, ?_, ?_⟩
  · exact fun j _ hj => .inl (call_granted_back hj)
  · intro j _ hj
    obtain ⟨hm, hne⟩ := mem_call_gate.mp hj.1
    exact ⟨hm, fun hgj => hj.2 (call_granted hgj hne)⟩

theorem InLine.call (h : s.InLine before) (hf : s.Front before i) (hw : s.workers[i]? = some w)
    (hp : w.phase = .waiting) (hg : s.gate.isGranted (.worker i) = true) :
    (s.call setup i w).InLine before := by
  have hs : Proceeds setup s i w (s.call setup i w) := .call hp hg
  have hi : s.IsGranted i := hg
  have hcalls : (s.call setup i w).calls.map (·.1) = s.calls.map (·.1) ++ [i] := by
    simp [Session.call, note, setWorker]
  refine ⟨?_, ?_, ?_, ?_, ?_⟩
  · rw [call_gate]
    exact h.gate.sublist List.filter_sublist
  · intro j hj k hk
    refine h.created j ?_ k (hs.isNew hw hk).2
    rw [line, hcalls] at hj
    rcases List.mem_append.mp hj with hm | hm
    · rcases List.mem_append.mp hm with hm | hm
      · exact List.mem_append_left _ hm
      · exact List.mem_append_right _ (List.mem_singleton.mp hm ▸ hi.at_gate)
    · exact List.mem_append_right _ (mem_call_gate.mp hm).1
  · intro j hj k hk
    obtain ⟨hm, hne⟩ := mem_call_gate.mp hk.1
    have hq : s.IsQueued k := ⟨hm, fun hgk => hk.2 (call_granted hgk hne)⟩
    rw [hcalls] at hj
    rcases List.mem_append.mp hj with hj | hj
    · exact h.queued j hj k hq
    · rw [List.mem_singleton.mp hj]
      exact before_queued h.gate hi hq
  · rw [hcalls]
    refine List.pairwise_append.mpr ⟨h.calls, List.pairwise_singleton _ _, ?_⟩
    intro j hj k hk
    rw [List.mem_singleton.mp hk]
    exact h.granted j hj i hi
  · intro j hj k hk
    rw [hcalls] at hj
    rcases List.mem_append.mp hj with hj | hj
    · exact h.granted j hj k (call_granted_back hk)
    · rw [List.mem_singleton.mp hj]
      exact hf.granted (.inr hi) k (mem_call_gate.mp hk.at_gate).2 (call_granted_back hk)

theorem InLine.proceed (h : s.InLine before) (ha : s.Admitted setup) (hf : s.Front before i) :
    (s.proceed setup i).InLine before ∧ (s.proceed setup i).Front before i := by
  have hnext := ha.proceed i
  rcases proceed_cases setup s i with ⟨he, _⟩ | ⟨w, hw, hs⟩
  · rw [he]
    exact ⟨h, hf⟩
  · generalize s.proceed setup i = s' at hs hnext ⊢
    by_cases hpassed : w.HasPassed
    · exact ⟨h.recede ha (hs.recedes hw hpassed), front_passed hnext (hs.passed hw hpassed.1)⟩
    · cases hs with
      | start hp => exact ⟨h.start ha hf hw hp, hf.start hw hp⟩
      | call hp hg =>
        have hs : Proceeds setup s i w (s.call setup i w) := .call hp hg
        exact ⟨h.call hf hw hp hg, front_passed hnext (hs.passed hw (by simp [hp]))⟩
      | hangUp hp | digest hp | publish hp | leave hp | close hp =>
        exact absurd ⟨by simp [hp], by simp [hp]⟩ hpassed

theorem Admitted.proceed_beside (ha : s.Admitted setup) (i : Nat) :
    s.Beside (s.proceed setup i) (some i) := by
  rcases proceed_cases setup s i with ⟨he, _⟩ | ⟨w, hw, hs⟩
  · rw [he]
    exact (Recedes.refl s).beside _
  · generalize s.proceed setup i = s' at hs ⊢
    by_cases hpassed : w.HasPassed
    · exact (hs.recedes hw hpassed).beside _
    · cases hs with
      | start hp => exact ha.start_beside hw hp
      | call hp hg => exact call_beside hw hp hg
      | hangUp hp | digest hp | publish hp | leave hp | close hp =>
        exact absurd ⟨by simp [hp], by simp [hp]⟩ hpassed

theorem InLine.poll (h : s.InLine before) (ha : s.Admitted setup) (hf : s.Front before i) :
    (s.poll setup i).InLine before := by
  have hstep (t : Session) (ht : t.Admitted setup ∧ t.InLine before ∧ t.Front before i) :
      (t.proceed setup i).Admitted setup ∧ (t.proceed setup i).InLine before ∧
        (t.proceed setup i).Front before i :=
    ⟨ht.1.proceed i, ht.2.1.proceed ht.1 ht.2.2⟩
  exact (proceedIn_preserves hstep 7 ⟨ha, h, hf⟩).2.1

theorem Admitted.poll_beside (ha : s.Admitted setup) (i : Nat) :
    s.Beside (s.poll setup i) (some i) := by
  have hstep (t : Session) (ht : t.Admitted setup ∧ s.Beside t (some i)) :
      (t.proceed setup i).Admitted setup ∧ s.Beside (t.proceed setup i) (some i) :=
    ⟨ht.1.proceed i, ht.2.trans (ht.1.proceed_beside i)⟩
  exact (proceedIn_preserves hstep 7 ⟨ha, (Recedes.refl s).beside _⟩).2

/-- A worker that has been run has taken its permit if it had one. -/
theorem Admitted.poll_settles (ha : s.Admitted setup) (i : Nat) :
    ¬(s.poll setup i).IsNew i ∧ ¬(s.poll setup i).IsGranted i := by
  have hstuck := poll_stops setup s i
  constructor
  · rintro ⟨w, hw, hp⟩
    have hready := not_ready_of_stuck hw hstuck
    simp [isReady, hp] at hready
  · intro hg
    obtain ⟨w, hw, hp⟩ := (ha.poll i).waits hg.at_gate
    have hready := not_ready_of_stuck hw hstuck
    simp only [isReady, hp] at hready
    rw [IsGranted, hready] at hg
    cases hg

theorem interrupt_recedes (s : Session) (i : Nat) : s.Recedes (s.interrupt i) := by
  rcases interrupt_cases s i with ⟨he, _⟩ | ⟨w, hw, hs⟩
  · rw [he]
    exact .refl s
  · obtain ⟨w', hc, hint⟩ := hs.changes hw
    have hphase : w'.phase ≠ .created := by
      cases hint <;> exact nofun
    have hlength := Nat.le_of_eq hc.length.symm
    have hnew (j : Nat) (hj : (s.interrupt i).IsNew j) : s.IsNew j ∨ s.workers.length ≤ j :=
      .inl (hc.isNew hphase hj).2
    generalize s.interrupt i = t at hs hlength hnew ⊢
    cases hs with
    | created => exact ⟨rfl, hlength, List.Sublist.refl _, fun _ hj _ => hj, hnew⟩
    | waiting =>
      have hleaves : (s.gate.withdraw (.worker i)).callers =
          s.gate.callers.filter (· != .worker i) :=
        (addPermits_callers _ _).trans (remove_line _ _)
      refine ⟨rfl, hlength, List.Sublist.filterMap _ ?_, ?_, hnew⟩
      · simp only [setWorker, hleaves]
        exact List.filter_sublist
      · intro j hj hm
        have hne := (mem_withdraw_callers.mp (mem_workersAt.mp hm)).2
        exact granted_addPermits (granted_remove hj hne) _
    | calling => exact recedes_of_release rfl rfl hlength hnew

/-- Taking a worker away lets nobody in that does not wait. -/
theorem Rested.dropTask_recedes (hr : s.Rested) (setup : Setup) (i : Nat) :
    s.Recedes (s.dropTask i) := by
  have hpassed (x : Worker) (hx : x.phase.remaining ≤ 2) : x.HasPassed := by
    constructor <;> intro hp <;> simp [hp, Phase.remaining] at hx
  have hstep (t : Session)
      (ht : s.Recedes t ∧ ∀ x, t.workers[i]? = some x → x.phase.remaining ≤ 2) :
      s.Recedes (t.proceed setup i) ∧
        ∀ x, (t.proceed setup i).workers[i]? = some x → x.phase.remaining ≤ 2 := by
    obtain ⟨hrecedes, hends⟩ := ht
    rcases proceed_cases setup t i with ⟨he, _⟩ | ⟨w, hw, hs⟩
    · rw [he]
      exact ⟨hrecedes, hends⟩
    · refine ⟨hrecedes.trans (hs.recedes hw (hpassed w (hends w hw))), ?_⟩
      intro x hx
      obtain ⟨w', errors, hc, hsteps⟩ := hs.changes hw
      rw [hc.same, Option.some.injEq] at hx
      exact hx ▸ Nat.le_trans (Nat.le_of_lt hsteps.remaining) (hends w hw)
  rw [dropTask_eq setup (hr i)]
  exact (proceedIn_preserves hstep 2
    ⟨interrupt_recedes s i, interrupt_remaining (hr i)⟩).1

theorem Admitted.pollResize_recedes (h : s.Admitted setup) (id : Nat) :
    s.Recedes (s.pollResize id).1 := by
  have hgate : (s.pollResize id).1.gate = (s.gate.advanceResize (.resize id)).1 := rfl
  refine ⟨rfl, Nat.le_refl _, ?_, ?_, fun j hj => .inl hj⟩
  · rw [hgate, workersAt, workersAt]
    rcases h.gate.advanceResize_line (.resize id) with hsame | ⟨_, _, hjoin⟩ | ⟨_, hleave⟩
    · rw [hsame]
    · simp [hjoin, Party.worker?]
    · rw [hleave]
      exact List.Sublist.filterMap _ List.filter_sublist
  · exact fun j hj hm => granted_advanceResize hj (mem_workersAt.mp hm)

theorem discard_recedes (s : Session) (i : Nat) : s.Recedes (s.discard i) := by
  refine ⟨rfl, by simp [Session.discard], List.Sublist.refl _, fun _ hj _ => hj, ?_⟩
  rintro j ⟨x, hx, hp⟩
  obtain ⟨y, hy, rfl | rfl⟩ := discard_lookup hx
  · exact .inl ⟨_, hy, hp⟩
  · exact .inl ⟨y, hy, hp⟩

/-- Nobody but a worker that runs asks for a permit or makes a call. -/
theorem Admitted.move_recedes (h : s.Admitted setup) (hr : s.Rested) {m : Move}
    (hm : ∀ i, m ≠ .poll i) : s.Recedes (s.move setup m) := by
  cases m with
  | submit query =>
    refine ⟨rfl, by simp [Session.move, Session.spawn], List.Sublist.refl _, fun _ hj _ => hj, ?_⟩
    rintro j ⟨x, hx, hp⟩
    rcases spawn_lookup hx with hold | ⟨rfl, _⟩
    · exact .inl ⟨x, hold, hp⟩
    · exact .inr (Nat.le_refl _)
  | poll i => exact absurd rfl (hm i)
  | dropTask i => exact hr.dropTask_recedes setup i
  | startResize target =>
    simp only [Session.move, Session.startResize]
    split
    · exact ⟨rfl, Nat.le_refl _, List.Sublist.refl _, fun _ hj _ => hj, fun _ hj => .inl hj⟩
    · exact .refl s
  | pollResize id => exact h.pollResize_recedes id
  | dropResize id =>
    refine ⟨rfl, Nat.le_refl _, List.Sublist.filterMap _ ?_, ?_, fun _ hj => .inl hj⟩
    · simp only [Session.move, Session.dropResize, cancel_line]
      exact List.filter_sublist
    · exact fun j hj _ => granted_cancel hj (by simp)
  | pass millis =>
    simp only [Session.move, Session.pass]
    split
    · exact ⟨rfl, Nat.le_refl _, List.Sublist.refl _, fun _ hj _ => hj, fun _ hj => .inl hj⟩
    · exact .refl s
  | take i =>
    simp only [Session.move]
    rcases take_eq s i with he | ⟨events, he⟩
    · rw [he]
      exact .refl s
    · have hd := discard_recedes s i
      rw [he]
      exact ⟨hd.calls, hd.length, hd.gate, hd.granted, hd.created⟩
  | discard i => exact discard_recedes s i

end MetricBatch.Session
