import MetricBatch.Proofs.Session.Admission
import MetricBatch.Proofs.Session.Isolation

namespace MetricBatch.Session

open Gate

variable {setup : Setup} {s s' : Session} {i j : Nat} {w x : Worker}

theorem proceeds_of_ready (hw : s.workers[i]? = some w) (h : s.isReady setup i w = true) :
    Proceeds setup s i w (s.proceed setup i) := by
  unfold isReady at h
  unfold proceed
  rw [hw]
  dsimp only
  cases hp : w.phase with
  | created => exact .start hp
  | waiting =>
    rw [hp] at h
    dsimp only at h ⊢
    rw [if_pos h]
    exact .call hp h
  | calling since reply =>
    rw [hp] at h
    obtain ⟨result, hr⟩ := Option.isSome_iff_exists.mp h
    dsimp only
    rw [hr]
    exact .hangUp hp hr
  | digesting result => exact .digest hp
  | publishing results => exact .publish hp
  | leaving => exact .leave hp
  | closing => exact .close hp
  | ended => simp [hp] at h

/-- A worker at which `proceed` does nothing is not ready. -/
theorem not_ready_of_stuck (hw : s.workers[i]? = some w) (h : s.proceed setup i = s) :
    s.isReady setup i w = false := by
  by_contra hready
  rw [Bool.not_eq_false] at hready
  obtain ⟨w', errors, hc, hstep⟩ := (proceeds_of_ready hw hready).changes hw
  have hsame := hc.same
  rw [h, hw, Option.some.injEq] at hsame
  have hless := hstep.remaining
  rw [hsame] at hless
  exact Nat.lt_irrefl _ hless

/-- Only at the gate it matters what others do. -/
theorem isReady_congr (hp : w.phase ≠ .waiting) (hclock : s'.clock = s.clock) :
    s'.isReady setup i w = s.isReady setup i w := by
  unfold isReady
  cases h : w.phase with
  | waiting => exact absurd h hp
  | calling since reply => rw [hclock]
  | created | digesting | publishing | leaving | closing | ended => rfl

theorem isQuiet_iff : s.isQuiet setup = true ↔
    ∀ (i : Nat) (w : Worker), s.workers[i]? = some w → s.isReady setup i w = false := by
  unfold isQuiet
  rw [List.all_eq_true]
  constructor
  · intro h i w hw
    simpa using h (w, i) (List.mem_zipIdx_iff_getElem?.mpr hw)
  · rintro h ⟨w, i⟩ hm
    simpa using h i w (List.mem_zipIdx_iff_getElem?.mp hm)

theorem poll_clock (setup : Setup) (s : Session) (i : Nat) : (s.poll setup i).clock = s.clock := by
  apply proceedIn_preserves (P := fun t => t.clock = s.clock) _ 7 rfl
  intro t ht
  rcases proceed_changes setup t i with ⟨he, _⟩ | ⟨w, w', errors, hc, _⟩
  · rwa [he]
  · rw [hc.clock, ht]

/-- A worker that has been polled has to wait, and nobody else gets ready by it but those who wait
at the gate. -/
theorem poll_ready (hw : (s.poll setup i).workers[j]? = some w)
    (h : (s.poll setup i).isReady setup j w = true) :
    w.phase = .waiting ∨ j ≠ i ∧ s.workers[j]? = some w ∧ s.isReady setup j w = true := by
  by_cases hp : w.phase = .waiting
  · exact .inl hp
  · right
    by_cases hj : j = i
    · subst hj
      rw [not_ready_of_stuck hw (poll_stops setup s j)] at h
      cases h
    · rw [isReady_congr hp (poll_clock setup s i)] at h
      rw [Session.poll, proceedIn_other hj] at hw
      exact ⟨hj, hw, h⟩

/-- Only workers that have been let in by the gate can take a step. -/
def Calm (setup : Setup) (s : Session) : Prop :=
  ∀ (i : Nat) (w : Worker), s.workers[i]? = some w → s.isReady setup i w = true → w.phase = .waiting

theorem Calm.poll (h : s.Calm setup) (i : Nat) : (s.poll setup i).Calm setup := by
  intro j w hw hready
  rcases poll_ready hw hready with hp | ⟨_, hold, hbefore⟩
  · exact hp
  · exact h j w hold hbefore

theorem Calm.quiet (h : s.Calm setup) (hnone : s.granted? = none) : s.isQuiet setup = true := by
  rw [isQuiet_iff]
  intro i w hw
  by_contra hready
  rw [Bool.not_eq_false] at hready
  have hp := h i w hw hready
  have hg : s.gate.isGranted (.worker i) = true := by simpa [isReady, hp] using hready
  obtain ⟨x, hx, hcall⟩ := isGranted_iff.mp hg
  have hout := List.findSome?_eq_none_iff.mp hnone x hx
  simp [hcall] at hout

theorem granted_of_granted? (h : s.granted? = some i) : s.gate.isGranted (.worker i) = true := by
  obtain ⟨x, hx, hi⟩ := List.exists_of_findSome?_eq_some h
  rw [isGranted_iff]
  refine ⟨x, hx, ?_⟩
  cases hc : x.call with
  | worker k => simpa [hc] using hi
  | resize id => simp [hc] at hi

theorem callers_length (g : Gate Party) : g.callers.length = g.waiting := List.length_map ..

/-- A worker that has come to the gate makes nobody else come there. -/
theorem proceed_waiting (hw : ∀ w, s.workers[i]? = some w → w.phase ≠ .created) :
    (s.proceed setup i).gate.waiting ≤ s.gate.waiting ∧
      ∀ w, (s.proceed setup i).workers[i]? = some w → w.phase ≠ .created := by
  constructor
  · rcases proceed_cases setup s i with ⟨he, _⟩ | ⟨w, hw', hs⟩
    · exact Nat.le_of_eq (by rw [he])
    · generalize s.proceed setup i = s' at hs ⊢
      cases hs with
      | start hp => exact absurd hp (hw w hw')
      | call hp hg =>
        have hless : (s.gate.remove (.worker i)).waiters.length ≤ s.gate.waiters.length := by
          rw [remove_waiters]
          exact List.length_filter_le _ _
        exact hless
      | hangUp hp =>
        have hsame : s.gate.release.callers.length = s.gate.callers.length := by
          rw [Gate.release, addPermits_callers]
          rfl
        rw [callers_length, callers_length] at hsame
        exact Nat.le_of_eq hsame
      | digest => exact Nat.le_of_eq (congrArg Gate.waiting (digest_gate ..))
      | publish => exact Nat.le_refl _
      | leave => exact Nat.le_of_eq (congrArg Gate.waiting (leave_gate ..))
      | close => exact Nat.le_refl _
  · intro w hw'
    rcases proceed_changes setup s i with ⟨he, _⟩ | ⟨x, x', errors, hc, hstep⟩
    · rw [he] at hw'
      exact hw w hw'
    · rw [hc.same, Option.some.injEq] at hw'
      intro hp
      have hless := hstep.remaining
      rw [hw', hp] at hless
      exact absurd hless (Nat.not_lt.mpr x.phase.remaining_le)

theorem proceedIn_waiting (hw : ∀ w, s.workers[i]? = some w → w.phase ≠ .created)
    (turns : Nat) : (s.proceedIn setup turns i).gate.waiting ≤ s.gate.waiting := by
  induction turns generalizing s with
  | zero => exact Nat.le_refl _
  | succ turns ih =>
    obtain ⟨hle, hnext⟩ := proceed_waiting hw
    exact Nat.le_trans (ih hnext) hle

/-- A worker that has been let in takes its call out of the gate when it is polled. -/
theorem Admitted.poll_waiting (h : s.Admitted setup) (hg : s.gate.isGranted (.worker i) = true) :
    (s.poll setup i).gate.waiting < s.gate.waiting := by
  obtain ⟨y, hy, hcall⟩ := isGranted_iff.mp hg
  have hmem : y ∈ s.gate.waiters := List.mem_append_left _ hy
  obtain ⟨w, hw, hp⟩ := h.queued.waiting i (List.mem_map.mpr ⟨y, hmem, hcall⟩)
  have hstep : s.proceed setup i = s.call setup i w := by simp [Session.proceed, hw, hp, hg]
  have hfirst : (s.call setup i w).gate.waiting < s.gate.waiting := by
    have hless : (s.gate.remove (.worker i)).waiters.length < s.gate.waiters.length := by
      rw [remove_waiters]
      exact List.length_filter_lt_length_iff_exists.mpr ⟨y, hmem, by simp [hcall]⟩
    exact hless
  have hlater : ∀ x, (s.call setup i w).workers[i]? = some x → x.phase ≠ .created := by
    intro x hx
    have hc : Changes s (s.call setup i w) i w _ [] := changes_silent hw rfl rfl rfl
    rw [hc.same, Option.some.injEq] at hx
    rw [← hx]
    intro hcreated
    cases hcreated
  rw [Session.poll, proceedIn, hstep]
  exact Nat.lt_of_le_of_lt (proceedIn_waiting hlater 6) hfirst

/-- Enough turns let everybody run that the gate lets in. -/
theorem Admitted.settleIn_done {turns : Nat} (h : s.Admitted setup) (hle : s.gate.waiting ≤ turns) :
    (s.settleIn setup turns).granted? = none := by
  -- Each turn takes one out of those who wait, and nobody comes.
  induction turns generalizing s with
  | zero =>
    have hnone : s.gate.waiters = [] := List.length_eq_zero_iff.mp (Nat.le_zero.mp hle)
    have hgranted := (List.append_eq_nil_iff.mp hnone).1
    simp [settleIn, granted?, hgranted]
  | succ turns ih =>
    unfold settleIn
    split
    · rename_i hnone
      exact hnone
    · rename_i i hi
      have hless := h.poll_waiting (granted_of_granted? hi)
      exact ih (h.poll i) (by omega)

theorem Calm.settleIn (h : s.Calm setup) (turns : Nat) : (s.settleIn setup turns).Calm setup := by
  induction turns generalizing s with
  | zero => exact h
  | succ turns ih =>
    unfold Session.settleIn
    split
    · exact h
    · rename_i i _
      exact ih (h.poll i)

theorem Calm.settle (h : s.Calm setup) (ha : s.Admitted setup) :
    (s.settle setup).isQuiet setup = true :=
  Calm.quiet (h.settleIn _) (ha.settleIn_done (Nat.le_refl _))

/-- What time does to a quiet session: nobody gets ready by it but those whose calls are over. -/
theorem ready_of_quiet (hq : s.isQuiet setup = true) (hworkers : s'.workers = s.workers)
    (hgate : s'.gate = s.gate) (hw : s'.workers[i]? = some w)
    (h : s'.isReady setup i w = true) : w.isCalling = true := by
  by_contra hc
  rw [Bool.not_eq_true] at hc
  rw [hworkers] at hw
  have hbefore := isQuiet_iff.mp hq i w hw
  have hsame : s'.isReady setup i w = s.isReady setup i w := by
    unfold isReady
    cases hp : w.phase with
    | calling => simp [Worker.isCalling, hp] at hc
    | waiting => rw [hgate]
    | created | digesting | publishing | leaving | closing | ended => rfl
  rw [hsame, hbefore] at h
  cases h

/-- Polls each worker of a list that has been calling. -/
def pollCalling (setup : Setup) (s : Session) (calls : List (Worker × Nat)) : Session :=
  calls.foldl (fun s (w, i) => if w.isCalling then s.poll setup i else s) s

/-- Only workers of a list can take a step, and those that have been let in. -/
def CalmBut (setup : Setup) (s : Session) (calls : List (Worker × Nat)) : Prop :=
  ∀ (i : Nat) (w : Worker), s.workers[i]? = some w → s.isReady setup i w = true →
    w.phase = .waiting ∨ ∃ x, (x, i) ∈ calls ∧ x.isCalling = true

theorem CalmBut.pollCalling {calls : List (Worker × Nat)} (h : s.CalmBut setup calls) :
    (s.pollCalling setup calls).Calm setup := by
  induction calls generalizing s with
  | nil =>
    intro i w hw hready
    exact (h i w hw hready).resolve_right (by simp)
  | cons c rest ih =>
    obtain ⟨x, i⟩ := c
    simp only [Session.pollCalling, List.foldl_cons]
    split
    · apply ih
      intro j w hw hready
      rcases poll_ready hw hready with hp | ⟨hj, hold, hbefore⟩
      · exact .inl hp
      · refine (h j w hold hbefore).imp_right ?_
        rintro ⟨y, hy, hc⟩
        exact ⟨y, by simpa [hj] using hy, hc⟩
    · rename_i hx
      apply ih
      intro j w hw hready
      refine (h j w hw hready).imp_right ?_
      rintro ⟨y, hy, hc⟩
      refine ⟨y, ?_, hc⟩
      rcases List.mem_cons.mp hy with he | hm
      · cases he
        exact absurd hc hx
      · exact hm

theorem pass_frame (setup : Setup) (s : Session) (millis : Nat) :
    (s.pass setup millis).workers = s.workers ∧ (s.pass setup millis).gate = s.gate := by
  unfold pass
  split <;> exact ⟨rfl, rfl⟩

theorem pass_calm (hq : s.isQuiet setup = true) (millis : Nat) :
    (s.pass setup millis).CalmBut setup (s.pass setup millis).workers.zipIdx := by
  intro i w hw hready
  obtain ⟨hworkers, hgate⟩ := pass_frame setup s millis
  exact .inr ⟨w, List.mem_zipIdx_iff_getElem?.mpr hw, ready_of_quiet hq hworkers hgate hw hready⟩

theorem Admitted.pollCalling (h : s.Admitted setup) (calls : List (Worker × Nat)) :
    (s.pollCalling setup calls).Admitted setup := by
  induction calls generalizing s with
  | nil => exact h
  | cons c rest ih =>
    simp only [Session.pollCalling, List.foldl_cons]
    split
    · exact ih (h.poll c.2)
    · exact ih h

theorem settleIn_clock (turns : Nat) (s : Session) : (s.settleIn setup turns).clock = s.clock := by
  induction turns generalizing s with
  | zero => rfl
  | succ turns ih =>
    unfold settleIn
    split
    · rfl
    · rw [ih, poll_clock]

theorem pollCalling_clock (calls : List (Worker × Nat)) (s : Session) :
    (s.pollCalling setup calls).clock = s.clock := by
  induction calls generalizing s with
  | nil => rfl
  | cons c rest ih =>
    have hrest := ih (if c.1.isCalling then s.poll setup c.2 else s)
    refine hrest.trans ?_
    split
    · exact poll_clock setup s c.2
    · rfl

/-- Moving time to a point of a quiet session leaves it quiet there. -/
theorem Admitted.moveTo_quiet (h : s.Admitted setup) (hq : s.isQuiet setup = true) (time : Nat) :
    (s.moveTo setup time).isQuiet setup = true := by
  have hcalm := (pass_calm hq (time - s.clock)).pollCalling
  exact hcalm.settle ((h.pass _).pollCalling _)

theorem moveTo_clock (setup : Setup) (s : Session) (time : Nat) :
    (s.moveTo setup time).clock = (s.pass setup (time - s.clock)).clock :=
  (settleIn_clock _ _).trans (pollCalling_clock _ _)

/-- A quiet session waits until the next call ends. -/
theorem pass_clock {millis : Nat} (hq : s.isQuiet setup = true)
    (hn : (s.nextEnd? setup).all (s.clock + millis ≤ ·) = true) :
    (s.pass setup millis).clock = s.clock + millis := by
  simp [pass, hq, hn]

end MetricBatch.Session
