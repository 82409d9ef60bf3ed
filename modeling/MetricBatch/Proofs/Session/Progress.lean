import MetricBatch.Proofs.Session.Attendance
import MetricBatch.Proofs.Session.Quiet
import MetricBatch.Proofs.Session.Scripts

namespace MetricBatch

/-- A worker goes on and never back. -/
def Worker.Later (w w' : Worker) : Prop :=
  w'.phase = w.phase ∨ w'.phase.remaining < w.phase.remaining

namespace Worker

variable {w w' w'' : Worker}

theorem Later.refl (w : Worker) : w.Later w := .inl rfl

theorem Later.trans (h : w.Later w') (h' : w'.Later w'') : w.Later w'' := by
  rcases h with he | hlt
  · rwa [Later, he] at h'
  · rcases h' with he' | hlt'
    · rw [Later, he']
      exact .inr hlt
    · exact .inr (Nat.lt_trans hlt' hlt)

theorem isCalling_iff : w.isCalling = true ↔ ∃ since reply, w.phase = .calling since reply := by
  unfold isCalling
  cases w.phase <;> simp

theorem isEnded_iff : w.isEnded = true ↔ w.phase = .ended := by
  unfold isEnded
  cases w.phase <;> simp

theorem Later.not_ended (h : w.Later w') (hn : w'.phase ≠ .ended) : w.isEnded = false := by
  by_contra hw
  rw [Bool.not_eq_false, isEnded_iff] at hw
  rcases h with he | hlt
  · exact hn (he.trans hw)
  · simp [hw, Phase.remaining] at hlt

/-- Between polls, a worker whose call is over has ended. -/
theorem Later.ended (h : w.Later w') (hr : w'.Resting) (hw : w.phase.remaining ≤ 5)
    (hne : w'.phase ≠ w.phase) : w'.phase = .ended := by
  have hlow : w'.phase.remaining < 5 := Nat.lt_of_lt_of_le (h.resolve_left hne) hw
  cases hp : w'.phase with
  | ended => rfl
  | created | waiting | calling =>
    rw [hp] at hlow
    simp [Phase.remaining] at hlow
  | digesting | publishing | leaving | closing => simp [Resting, hp] at hr

end Worker

namespace Session

open Gate

variable {setup : Setup} {s t u : Session} {i : Nat} {w w' : Worker}

/-- All workers are still there, and each has gone on. -/
structure Onward (s t : Session) : Prop where
  length : t.workers.length = s.workers.length
  later : ∀ (i : Nat) (w w' : Worker), s.workers[i]? = some w → t.workers[i]? = some w' →
    w.Later w'
  capacity : t.gate.capacity = s.gate.capacity
  resizes : t.gate.resizes = s.gate.resizes

theorem Onward.refl (s : Session) : Onward s s := by
  refine ⟨rfl, ?_, rfl, rfl⟩
  intro i w w' hw hw'
  rw [hw, Option.some.injEq] at hw'
  exact hw' ▸ .refl w

theorem Onward.trans (h : Onward s t) (h' : Onward t u) : Onward s u := by
  refine ⟨h'.length.trans h.length, ?_, h'.capacity.trans h.capacity, h'.resizes.trans h.resizes⟩
  intro i w w'' hw hw''
  have hlt : i < t.workers.length := by
    rw [h.length]
    exact (List.getElem?_eq_some_iff.mp hw).1
  have hw' : t.workers[i]? = some t.workers[i] := List.getElem?_eq_getElem hlt
  exact (h.later i w _ hw hw').trans (h'.later i _ w'' hw' hw'')

theorem proceed_onward (setup : Setup) (s : Session) (i : Nat) :
    Onward s (s.proceed setup i) := by
  have hgate : (s.proceed setup i).gate.capacity = s.gate.capacity ∧
      (s.proceed setup i).gate.resizes = s.gate.resizes := by
    rcases proceed_cases setup s i with ⟨he, _⟩ | ⟨w, _, hs⟩
    · rw [he]
      exact ⟨rfl, rfl⟩
    · generalize s.proceed setup i = t at hs ⊢
      cases hs with
      | start =>
        obtain ⟨hres, hcap, _⟩ := request_frame s.gate (.worker i) 1
        exact ⟨hcap, hres⟩
      | digest =>
        rw [digest_gate]
        exact ⟨rfl, rfl⟩
      | leave =>
        rw [leave_gate]
        exact ⟨rfl, rfl⟩
      | call | hangUp | publish | close => exact ⟨rfl, rfl⟩
  rcases proceed_changes setup s i with ⟨he, _⟩ | ⟨x, x', errors, hc, hstep⟩
  · rw [he]
    exact .refl s
  · refine ⟨by rw [hc.workers, List.length_set], ?_, hgate.1, hgate.2⟩
    intro j w w' hw hw'
    rcases hc.lookup hw' with ⟨rfl, rfl⟩ | ⟨_, hold⟩
    · rw [hc.here, Option.some.injEq] at hw
      exact hw ▸ .inr hstep.remaining
    · rw [hw, Option.some.injEq] at hold
      exact hold ▸ .refl w

theorem discard_onward (s : Session) (i : Nat) : Onward s (s.discard i) := by
  refine ⟨by simp [Session.discard], ?_, rfl, rfl⟩
  intro j w w' hw hw'
  obtain ⟨x, hx, he⟩ := discard_lookup hw'
  rw [hw, Option.some.injEq] at hx
  rcases he with rfl | rfl <;> exact .inl (by rw [hx])

theorem Onward.congr (h : Onward s t) (hw : u.workers = t.workers) (hg : u.gate = t.gate) :
    Onward s u :=
  ⟨by rw [hw, h.length], by rw [hw]; exact h.later, by rw [hg, h.capacity], by rw [hg, h.resizes]⟩

theorem move_onward (s : Session) {m : Move} (hm : m.Waits) : Onward s (s.move setup m) := by
  cases m with
  | poll i =>
    exact proceedIn_preserves (P := Onward s) (fun t ht => ht.trans (proceed_onward setup t i)) 7
      (.refl s)
  | pass millis =>
    obtain ⟨hworkers, hgate⟩ := pass_frame setup s millis
    exact (Onward.refl s).congr hworkers hgate
  | take i =>
    simp only [Session.move]
    rcases take_eq s i with he | ⟨events, he⟩
    · rw [he]
      exact .refl s
    · rw [he]
      exact (discard_onward s i).congr rfl rfl
  | discard i => exact discard_onward s i
  | submit | dropTask | startResize | pollResize | dropResize => exact hm.elim

/-- A session that can be reached, in which nobody changes the capacity. -/
structure Steady (setup : Setup) (s : Session) : Prop where
  coherent : s.Coherent setup fun _ => True
  rested : s.Rested
  admitted : s.Admitted setup
  attended : s.Attended
  fixed : s.gate.resizes = []

theorem Steady.move (h : s.Steady setup) {m : Move} (hm : m.Waits) : (s.move setup m).Steady setup :=
  ⟨h.coherent.move h.rested m fun _ _ => trivial, h.rested.move m, h.admitted.move h.rested m,
    h.attended.move h.admitted h.rested m, (move_onward s hm).resizes.trans h.fixed⟩

/-- Whoever only waits keeps the invariant, and everybody goes on. -/
theorem Steady.waits (h : s.Steady setup) (hl : WaitsTo setup s t) : t.Steady setup ∧ Onward s t := by
  obtain ⟨moves, hm, rfl⟩ := hl
  induction moves generalizing s with
  | nil => exact ⟨h, .refl s⟩
  | cons m rest ih =>
    rw [List.forall_mem_cons] at hm
    obtain ⟨hlast, honward⟩ := ih (h.move hm.1) hm.2
    exact ⟨hlast, (move_onward s hm.1).trans honward⟩

/-- A call under way in a quiet session began at some time before, and ends at some time after. -/
theorem Steady.call_runs (h : s.Steady setup) (hq : s.isQuiet setup = true) (hw : w ∈ s.workers)
    {since : Nat} {reply : Reply} (hp : w.phase = .calling since reply) :
    since ≤ s.clock ∧ s.clock < since + reply.duration setup.limit := by
  obtain ⟨i, hi⟩ := List.mem_iff_getElem?.mp hw
  obtain ⟨_, hsince, hle, hover⟩ := calling_in_time (h.coherent.sound i w hi) hp
  have hready := isQuiet_iff.mp hq i w hi
  simp only [isReady, hp] at hready
  have hne : s.clock ≠ since + reply.duration setup.limit := by
    intro he
    rw [hover.mpr he] at hready
    cases hready
  exact ⟨hsince, by omega⟩

/-- In a quiet session each worker waits, calls or has ended. -/
theorem Steady.quiet_phase (h : s.Steady setup) (hq : s.isQuiet setup = true) (hw : w ∈ s.workers) :
    w.phase = .waiting ∨ w.isCalling = true ∨ w.phase = .ended := by
  obtain ⟨i, hi⟩ := List.mem_iff_getElem?.mp hw
  have hready := isQuiet_iff.mp hq i w hi
  have hrests := h.rested i w hi
  cases hp : w.phase <;> simp [isReady, Worker.Resting, Worker.isCalling, hp] at hready hrests ⊢

/-- If a worker waits in a quiet session, no permit is available or on its way to somebody. -/
theorem Steady.no_idle_permit (h : s.Steady setup) (hq : s.isQuiet setup = true)
    (hw : ∃ w ∈ s.workers, w.phase = .waiting) :
    s.gate.available = 0 ∧ s.gate.assigned = 0 ∧ s.callsInFlight = s.gate.capacity := by
  obtain ⟨w, hm, hp⟩ := hw
  obtain ⟨i, hi⟩ := List.mem_iff_getElem?.mp hm
  have hcaller := h.attended.waiting i w hi hp
  have hgranted : s.gate.granted = [] := by
    apply List.eq_nil_iff_forall_not_mem.mpr
    intro x hx
    have hc : x.call ∈ s.gate.callers := List.mem_map.mpr ⟨x, List.mem_append_left _ hx, rfl⟩
    cases hcall : x.call with
    | worker j =>
      obtain ⟨y, hy, hwaits⟩ := h.admitted.queued.waiting j (hcall ▸ hc)
      have hready := isQuiet_iff.mp hq j y hy
      simp only [isReady, hwaits] at hready
      rw [isGranted_iff.mpr ⟨x, hx, hcall⟩] at hready
      cases hready
    | resize id =>
      have hid := h.attended.changes id (hcall ▸ hc)
      simp [resizers, h.fixed] at hid
  have hwaiters : s.gate.waiters = s.gate.queue := by rw [waiters, hgranted, List.nil_append]
  have hqueue : s.gate.queue ≠ [] := by
    intro he
    rw [callers, hwaiters, he] at hcaller
    cases hcaller
  have hgot : ∀ x ∈ s.gate.queue, x.got = 0 := by
    intro x hx
    have hwants := h.admitted.gate.wants x (List.mem_append_right _ hx)
    have hshort := h.admitted.gate.short x hx
    rw [hwants, share_of_not_resize (by simp [resizers, h.fixed])] at hshort
    omega
  have hassigned : s.gate.assigned = 0 := by
    have hnone (l : List (Waiter Party)) (hl : ∀ x ∈ l, x.got = 0) : permitsOf l = 0 := by
      induction l with
      | nil => rfl
      | cons x rest ih =>
        rw [List.forall_mem_cons] at hl
        rw [permitsOf_cons, hl.1, ih hl.2]
    rw [assigned, hwaiters]
    exact hnone _ hgot
  have havailable := h.admitted.gate.idle hqueue
  have hbalance := h.admitted.gate.balance
  have hflight := h.admitted.inFlight
  exact ⟨havailable, hassigned, by omega⟩

theorem Steady.unfinished_eq (h : s.Steady setup) (hq : s.isQuiet setup = true)
    (hnone : ¬∃ w ∈ s.workers, w.phase = .waiting) : s.callsInFlight = s.unfinished := by
  apply List.countP_congr
  intro w hw
  rcases h.quiet_phase hq hw with hp | hc | hp
  · exact absurd ⟨w, hw, hp⟩ hnone
  · simp only [hc, true_iff, Bool.not_eq_true']
    unfold Worker.isCalling at hc
    cases hp : w.phase <;> simp [Worker.isEnded, hp] at hc ⊢
  · simp [Worker.isCalling, Worker.isEnded, hp]

theorem countP_add_le {α β : Type} {p q : α → Bool} {r : β → Bool} {l : List α} {l' : List β}
    (hlen : l'.length = l.length)
    (h : ∀ (i : Nat) (a : α) (b : β), l[i]? = some a → l'[i]? = some b →
      (if r b then 1 else 0) + (if q a then 1 else 0) ≤ if p a then 1 else 0) :
    l'.countP r + l.countP q ≤ l.countP p := by
  induction l generalizing l' with
  | nil => simp [List.length_eq_zero_iff.mp hlen]
  | cons a rest ih =>
    cases l' with
    | nil => simp at hlen
    | cons b rest' =>
      have hhead := h 0 a b rfl rfl
      have htail := ih (by simpa using hlen) fun i x y hx hy => h (i + 1) x y hx hy
      simp only [List.countP_cons]
      omega

theorem Onward.unfinished_le (h : Onward s t) : t.unfinished ≤ s.unfinished := by
  have hle := countP_add_le (p := (! ·.isEnded)) (q := fun _ => false) (r := (! ·.isEnded)) h.length
    fun i w w' hw hw' => ?_
  · exact Nat.le_of_add_right_le hle
  · by_cases hended : w'.phase = .ended
    · simp [Worker.isEnded_iff.mpr hended]
    · simp [(h.later i w w' hw hw').not_ended hended]
      split <;> simp

/-- All calls under way end after some time. -/
def CallsEndAfter (setup : Setup) (s : Session) (time : Nat) : Prop :=
  ∀ w ∈ s.workers, ∀ since reply, w.phase = .calling since reply →
    time < since + reply.duration setup.limit

/-- Workers whose calls have to be over by then have ended. -/
theorem Steady.calls_over (h : s.Steady setup) (hl : WaitsTo setup s t) {time : Nat}
    (hends : t.CallsEndAfter setup time) (p : Worker → Bool)
    (hp : ∀ w ∈ s.workers, p w = true → ∃ since reply, w.phase = .calling since reply ∧
      since + reply.duration setup.limit ≤ time) :
    t.unfinished + s.workers.countP p ≤ s.unfinished := by
  obtain ⟨ht, honward⟩ := h.waits hl
  apply countP_add_le honward.length
  intro i w w' hw hw'
  have hlater := honward.later i w w' hw hw'
  by_cases hended : w'.phase = .ended
  · have hzero : w'.isEnded = true := Worker.isEnded_iff.mpr hended
    simp only [hzero, Bool.not_true, Bool.false_eq_true, ↓reduceIte, Nat.zero_add]
    by_cases hpw : p w
    · obtain ⟨since, reply, hcalls, _⟩ := hp w (List.mem_of_getElem? hw) hpw
      simp [hpw, Worker.isEnded, hcalls]
    · simp [hpw]
  · have hpw : p w = false := by
      by_contra hpw
      rw [Bool.not_eq_false] at hpw
      obtain ⟨since, reply, hcalls, hle⟩ := hp w (List.mem_of_getElem? hw) hpw
      have hsame : w'.phase = w.phase := by
        by_contra hne
        apply hended
        exact hlater.ended (ht.rested i w' hw') (by simp [hcalls, Phase.remaining]) hne
      have hlate := hends w' (List.mem_of_getElem? hw') since reply (hsame.trans hcalls)
      omega
    have hbefore := hlater.not_ended hended
    simp only [hpw, hbefore]
    split <;> simp

/-- Only time itself moves the clock: in a quiet session, and not beyond the end of a call. -/
theorem move_clock (setup : Setup) (s : Session) {m : Move} (hm : m.Waits) :
    (s.move setup m).clock = s.clock ∨
      s.isQuiet setup = true ∧ (s.nextEnd? setup).all ((s.move setup m).clock ≤ ·) = true := by
  cases m with
  | poll i => exact .inl (poll_clock setup s i)
  | pass millis =>
    simp only [Session.move, Session.pass]
    split
    · rename_i hpass
      exact .inr (Bool.and_eq_true_iff.mp hpass)
    · exact .inl rfl
  | take i =>
    left
    simp only [Session.move]
    rcases take_eq s i with he | ⟨events, he⟩ <;> rw [he]
    rfl
  | discard i => exact .inl rfl
  | submit | dropTask | startResize | pollResize | dropResize => exact hm.elim

/-- Time passes a point only from a quiet state whose calls all end later. -/
theorem Steady.crossing (h : s.Steady setup) {time : Nat} (hs : s.clock ≤ time)
    (hl : WaitsTo setup s u)
    (hu : time < u.clock ∨ time ≤ u.clock ∧ u.isQuiet setup = true) :
    ∃ t, WaitsTo setup s t ∧ WaitsTo setup t u ∧ t.isQuiet setup = true ∧ t.clock ≤ time ∧
      t.CallsEndAfter setup time := by
  obtain ⟨moves, hm, rfl⟩ := hl
  induction moves generalizing s with
  | nil =>
    obtain ⟨hle, hq⟩ := hu.resolve_left (Nat.not_lt.mpr hs)
    refine ⟨s, .refl s, .refl s, hq, hs, ?_⟩
    intro w hw since reply hp
    have hruns := (h.call_runs hq hw hp).2
    exact Nat.lt_of_le_of_lt hle hruns
  | cons m rest ih =>
    have hrest := (List.forall_mem_cons.mp hm).2
    have hfirst : WaitsTo setup s (s.move setup m) := waitsTo_move s (hm m (by simp))
    by_cases hnext : (s.move setup m).clock ≤ time
    · obtain ⟨t, hst, htu, ht⟩ := ih (h.move (hm m (by simp))) hnext hrest hu
      exact ⟨t, hfirst.trans hst, htu, ht⟩
    · -- This is the move that passes the point, so the state before it is the one.
      rcases move_clock setup s (hm m (by simp)) with hsame | ⟨hq, hnextEnd⟩
      · omega
      · refine ⟨s, .refl s, ⟨_, hm, rfl⟩, hq, hs, ?_⟩
        intro w hw since reply hp
        have hle := le_end hnextEnd hw hp
        omega

/-- So many rounds are enough for so many workers. -/
theorem le_rounds_mul (k : Nat) {capacity : Nat} (hpos : 1 ≤ capacity) :
    k ≤ (k + capacity - 1) / capacity * capacity := by
  have hsplit := Nat.div_add_mod (k + capacity - 1) capacity
  have hmod := Nat.mod_lt (k + capacity - 1) hpos
  rw [Nat.mul_comm] at hsplit
  omega

/-- With each span that a call may take, as many workers end as there are permits, or all. -/
theorem Steady.drains {rounds : Nat} (h : s.Steady setup) (hq : s.isQuiet setup = true)
    (hrounds : s.unfinished ≤ rounds * s.gate.capacity) (hl : WaitsTo setup s u)
    (hu : s.clock + rounds * setup.limit < u.clock ∨
      s.clock + rounds * setup.limit ≤ u.clock ∧ u.isQuiet setup = true) :
    u.unfinished = 0 := by
  -- Each round leads to a quiet state on the way, and the next one starts from there.
  induction rounds generalizing s with
  | zero =>
    have hle := (h.waits hl).2.unfinished_le
    omega
  | succ rounds ih =>
    rw [Nat.succ_mul] at hrounds hu
    have hcross : s.clock + setup.limit < u.clock ∨
        s.clock + setup.limit ≤ u.clock ∧ u.isQuiet setup = true :=
      hu.imp (fun hlt => by omega) fun hle => ⟨by omega, hle.2⟩
    obtain ⟨t, hst, htu, htq, hclock, hends⟩ := h.crossing (Nat.le_add_right _ _) hl hcross
    obtain ⟨ht, honward⟩ := h.waits hst
    have hover : t.unfinished + s.callsInFlight ≤ s.unfinished := by
      apply h.calls_over hst hends
      intro w hw hc
      obtain ⟨since, reply, hp⟩ := Worker.isCalling_iff.mp hc
      have hsince := (h.call_runs hq hw hp).1
      have hduration := reply.duration_le setup.limit
      exact ⟨since, reply, hp, by omega⟩
    apply ih ht htq
    · rw [honward.capacity]
      by_cases hwaits : ∃ w ∈ s.workers, w.phase = .waiting
      · have hfull := (h.no_idle_permit hq hwaits).2.2
        omega
      · have hall := h.unfinished_eq hq hwaits
        have hnone : t.unfinished = 0 := by omega
        rw [hnone]
        exact Nat.zero_le _
    · exact htu
    · exact hu.imp (fun hlt => by omega) fun hle => ⟨by omega, hle.2⟩

theorem nextEnd?_none (hnone : s.unfinished = 0) : s.nextEnd? setup = none := by
  rw [nextEnd?, List.min?_eq_none_iff, List.filterMap_eq_nil_iff]
  intro w hw
  have hended := List.countP_eq_zero.mp hnone w hw
  rw [Bool.not_eq_true, Bool.not_eq_false', Worker.isEnded_iff] at hended
  simp [Worker.ends?, hended]

/-- The next end of a call is the end of a call that is under way. -/
theorem nextEnd?_some {next : Nat} (h : s.nextEnd? setup = some next) :
    ∃ w ∈ s.workers, ∃ since reply, w.phase = .calling since reply ∧
      since + reply.duration setup.limit = next := by
  obtain ⟨w, hw, hends⟩ := List.mem_filterMap.mp (List.min?_eq_some_iff.mp h).1
  refine ⟨w, hw, ?_⟩
  unfold Worker.ends? at hends
  split at hends
  · rename_i since reply hp
    exact ⟨since, reply, hp, Option.some.inj hends⟩
  · cases hends

/-- A quiet session stays quiet until the next call ends. -/
theorem Steady.pass_quiet (h : s.Steady setup) (hq : s.isQuiet setup = true) {time : Nat}
    (hs : s.clock ≤ time) (hn : (s.nextEnd? setup).all (time + 1 ≤ ·) = true) :
    (s.pass setup (time - s.clock)).clock = time ∧
      (s.pass setup (time - s.clock)).isQuiet setup = true := by
  have hall : (s.nextEnd? setup).all (s.clock + (time - s.clock) ≤ ·) = true := by
    cases hnext : s.nextEnd? setup with
    | none => rfl
    | some next =>
      simp only [hnext, Option.all_some, decide_eq_true_eq] at hn ⊢
      omega
  have hclock : (s.pass setup (time - s.clock)).clock = time := by
    rw [pass_clock hq hall]
    omega
  obtain ⟨hworkers, hgate⟩ := pass_frame setup s (time - s.clock)
  refine ⟨hclock, isQuiet_iff.mpr fun i w hw => ?_⟩
  by_contra hready
  rw [Bool.not_eq_false] at hready
  -- Whoever gets ready has a call that ends now, and all calls end later.
  obtain ⟨since, reply, hp⟩ :=
    Worker.isCalling_iff.mp (ready_of_quiet hq hworkers hgate hw hready)
  have hafter : (s.pass setup (time - s.clock)).Coherent setup fun _ => True :=
    h.coherent.pass _
  have hover := (calling_in_time (hafter.sound i w hw) hp).2.2.2
  simp only [isReady, hp] at hready
  have hnow := hover.mp hready
  rw [hworkers] at hw
  have hlater := le_end hn (List.mem_of_getElem? hw) hp
  omega

/-- At the next end of a call at least one worker ends. -/
theorem Steady.moveTo_next (h : s.Steady setup) (hq : s.isQuiet setup = true) {next : Nat}
    (hnext : s.nextEnd? setup = some next) :
    (s.moveTo setup next).clock = next ∧ (s.moveTo setup next).unfinished < s.unfinished := by
  obtain ⟨w, hw, since, reply, hp, hend⟩ := nextEnd?_some hnext
  have hruns := (h.call_runs hq hw hp).2
  have hclock : (s.moveTo setup next).clock = next := by
    rw [moveTo_clock, pass_clock hq]
    · omega
    · simp only [hnext, Option.all_some, decide_eq_true_eq]
      omega
  have hl : WaitsTo setup s (s.moveTo setup next) := moveTo_leads s next
  have hends : (s.moveTo setup next).CallsEndAfter setup next := by
    intro x hx since reply hp
    have hafter := ((h.waits hl).1.call_runs (h.admitted.moveTo_quiet hq next) hx hp).2
    rwa [hclock] at hafter
  have hover := h.calls_over hl hends (fun x => x.ends? setup.limit == some next) ?_
  · have hpos : 0 < s.workers.countP fun x => x.ends? setup.limit == some next :=
      List.countP_pos_iff.mpr ⟨w, hw, by simp [Worker.ends?, hp, hend]⟩
    exact ⟨hclock, by omega⟩
  · intro x _ hx
    unfold Worker.ends? at hx
    split at hx
    · rename_i since reply hp
      exact ⟨since, reply, hp, Nat.le_of_eq (by simpa using hx)⟩
    · cases hx

/-- Time can be moved on to any point. -/
theorem Steady.advanceIn_quiet {target turns : Nat} (h : s.Steady setup)
    (hq : s.isQuiet setup = true) (hs : s.clock ≤ target) (hle : s.unfinished ≤ turns) :
    (s.advanceIn setup target turns).clock = target ∧
      (s.advanceIn setup target turns).isQuiet setup = true := by
  induction turns generalizing s with
  | zero =>
    have hnone : s.nextEnd? setup = none := nextEnd?_none (Nat.le_zero.mp hle)
    exact h.pass_quiet hq hs (by simp [hnone])
  | succ turns ih =>
    unfold advanceIn
    split
    · rename_i hnone
      exact h.pass_quiet hq hs (by simp [hnone])
    · rename_i next hnext
      split
      · rename_i hreach
        obtain ⟨hclock, hless⟩ := h.moveTo_next hq hnext
        have hsteady := (h.waits (moveTo_leads s next)).1
        exact ih hsteady (h.admitted.moveTo_quiet hq next) (by omega) (by omega)
      · rename_i hlate
        apply h.pass_quiet hq hs
        rw [hnext, Option.all_some, decide_eq_true_eq]
        exact Nat.lt_of_not_le hlate

/-- While a worker waits in a quiet session, no permit is idle: each of them is with a worker whose
call is under way and must be over within the time that calls may take. So from any quiet session
time can be moved on, and it needs no more than that time for each round of as many workers as there
are permits until no worker is left, whatever the backend does. -/
theorem hung_calls_end (setup : Setup) (maxConcurrency : Nat) (moves : List Move) :
    let s := after setup maxConcurrency moves
    s.isQuiet setup = true → s.gate.resizes = [] →
    ((∃ w ∈ s.workers, w.phase = .waiting) →
      s.gate.available = 0 ∧ s.gate.assigned = 0 ∧
        s.workers.countP (·.permit) = s.gate.capacity) ∧
    (∀ w ∈ s.workers, w.permit = true → ∃ since reply, w.phase = .calling since reply ∧
      since ≤ s.clock ∧ s.clock < since + setup.limit) ∧
    let millis := (s.unfinished + s.gate.capacity - 1) / s.gate.capacity * setup.limit
    (∀ more : List Move, (∀ m ∈ more, m.Waits) →
      let t := more.foldl (move setup) s
      s.clock + millis < t.clock ∨ s.clock + millis ≤ t.clock ∧ t.isQuiet setup = true →
        t.unfinished = 0) ∧
    let t := s.advance setup millis
    t.clock = s.clock + millis ∧ t.isQuiet setup = true ∧ t.unfinished = 0 := by
  intro s hq hfixed
  have h : s.Steady setup :=
    ⟨coherent_moves (coherent_new setup _ maxConcurrency) (rested_new setup maxConcurrency)
        fun _ _ => trivial,
      rested_after setup maxConcurrency moves, admitted_after setup maxConcurrency moves,
      attended_after setup maxConcurrency moves, hfixed⟩
  have hpermits : s.workers.countP (·.permit) = s.callsInFlight := by
    apply List.countP_congr
    intro w hw
    rw [h.admitted.permits w hw]
  refine ⟨?_, ?_, ?_⟩
  · intro hwaits
    obtain ⟨havailable, hassigned, hfull⟩ := h.no_idle_permit hq hwaits
    exact ⟨havailable, hassigned, hpermits.trans hfull⟩
  · intro w hw hpermit
    rw [h.admitted.permits w hw] at hpermit
    obtain ⟨since, reply, hp⟩ := Worker.isCalling_iff.mp hpermit
    obtain ⟨hsince, hlt⟩ := h.call_runs hq hw hp
    exact ⟨since, reply, hp, hsince, Nat.lt_of_lt_of_le hlt
      (Nat.add_le_add_left (reply.duration_le setup.limit) since)⟩
  · intro millis
    have hrounds := le_rounds_mul s.unfinished h.admitted.gate.capacity_pos
    refine ⟨fun more hmore hlate => h.drains hq hrounds ⟨more, hmore, rfl⟩ hlate, ?_⟩
    intro t
    have hl : WaitsTo setup s t := advance_leads s millis
    obtain ⟨hclock, hquiet⟩ := h.advanceIn_quiet hq (Nat.le_add_right _ millis) (Nat.le_refl _)
    exact ⟨hclock, hquiet, h.drains hq hrounds hl (.inr ⟨Nat.le_of_eq hclock.symm, hquiet⟩)⟩

/-- A backend that never answers. -/
def silentBackend : Setup := { lateBackend with backend := fun _ => .silence }

/-- Three workers, one permit and no answer: each of them ends when its own time is up. -/
theorem hung_calls_end_silent :
    let s := after silentBackend 1
      [.submit ⟨"a", none⟩, .submit ⟨"b", none⟩, .submit ⟨"c", none⟩, .poll 0, .poll 1, .poll 2]
    s.isQuiet silentBackend = true ∧ s.gate.resizes = [] ∧ s.unfinished = 3 ∧
      s.gate.available = 0 ∧ s.workers.countP (·.permit) = 1 ∧
      (s.advance silentBackend 15).clock = 15 ∧ (s.advance silentBackend 15).unfinished = 0 := by
  have hq : (after silentBackend 1
      [.submit ⟨"a", none⟩, .submit ⟨"b", none⟩, .submit ⟨"c", none⟩, .poll 0, .poll 1,
        .poll 2]).isQuiet silentBackend = true := by rfl
  obtain ⟨hfull, _, _, hclock, _, hnone⟩ := hung_calls_end silentBackend 1
    [.submit ⟨"a", none⟩, .submit ⟨"b", none⟩, .submit ⟨"c", none⟩, .poll 0, .poll 1, .poll 2] hq rfl
  obtain ⟨havailable, _, hpermits⟩ := hfull ⟨_, .tail _ (.head _), rfl⟩
  exact ⟨hq, rfl, rfl, havailable, hpermits, hclock, hnone⟩

end Session

end MetricBatch
