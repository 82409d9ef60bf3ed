import Mathlib.Data.List.Induction
import MetricBatch.Proofs.Session.Admission

namespace MetricBatch.Session

open Gate

variable {setup : Setup} {s : Session} {i : Nat}

/-- What a step of a worker does to the capacity and to the peak. -/
def Peaks (g g' : Gate Party) : Prop :=
  g'.capacity = g.capacity ∧ (g'.peak ≤ g.peak ∨ g'.peak ≤ g.capacity)

theorem Peaks.refl (g : Gate Party) : Peaks g g := ⟨rfl, .inl (Nat.le_refl _)⟩

theorem Peaks.trans {g g' g'' : Gate Party} (h : Peaks g g') (h' : Peaks g' g'') :
    Peaks g g'' := by
  obtain ⟨hc, hp⟩ := h
  obtain ⟨hc', hp'⟩ := h'
  refine ⟨hc'.trans hc, ?_⟩
  rw [hc] at hp'
  omega

/-- A call can only begin while less are under way than the capacity says. -/
theorem Admitted.proceed_peaks (h : s.Admitted setup) (i : Nat) :
    Peaks s.gate (s.proceed setup i).gate := by
  have hnext := h.proceed i
  rcases proceed_cases setup s i with ⟨he, _⟩ | ⟨w, hw, hs⟩
  · rw [he]
    exact .refl _
  · generalize s.proceed setup i = s' at hs hnext ⊢
    cases hs with
    | start hp =>
      obtain ⟨_, hcap, _, hpeak, _⟩ := request_frame s.gate (.worker i) 1
      exact ⟨hcap, .inl (Nat.le_of_eq hpeak)⟩
    | call hp hg =>
      have hbalance := hnext.gate.balance
      simp only [Session.call, note, setWorker, Gate.take, countHeld, remove] at hbalance ⊢
      refine ⟨rfl, ?_⟩
      dsimp only at hbalance ⊢
      omega
    | hangUp => exact .refl _
    | digest =>
      rw [digest_gate]
      exact .refl _
    | publish => exact .refl _
    | leave =>
      rw [leave_gate]
      exact .refl _
    | close => exact .refl _

theorem Admitted.proceedIn_peaks (h : s.Admitted setup) (turns i : Nat) :
    Peaks s.gate (s.proceedIn setup turns i).gate := by
  have hrun : (s.proceedIn setup turns i).Admitted setup ∧
      Peaks s.gate (s.proceedIn setup turns i).gate :=
    proceedIn_preserves (P := fun t => t.Admitted setup ∧ Peaks s.gate t.gate)
      (fun t ht => ⟨ht.1.proceed i, ht.2.trans (ht.1.proceed_peaks i)⟩) turns ⟨h, .refl _⟩
  exact hrun.2

theorem interrupt_peaks (s : Session) (i : Nat) : Peaks s.gate (s.interrupt i).gate := by
  rcases interrupt_cases s i with ⟨he, _⟩ | ⟨w, _, hs⟩
  · rw [he]
    exact .refl _
  · generalize s.interrupt i = s' at hs ⊢
    cases hs <;> exact .refl _

/-- The peak grows only up to the capacity. -/
theorem Admitted.move_peak (h : s.Admitted setup) (hr : s.Rested) (m : Move) :
    (s.move setup m).gate.peak ≤ s.gate.peak ∨
      (s.move setup m).gate.peak ≤ (s.move setup m).gate.capacity := by
  have hsame (g : Gate Party) (hp : g.peak = s.gate.peak) :
      g.peak ≤ s.gate.peak ∨ g.peak ≤ g.capacity :=
    .inl (Nat.le_of_eq hp)
  have hpeaks (g : Gate Party) (hp : Peaks s.gate g) :
      g.peak ≤ s.gate.peak ∨ g.peak ≤ g.capacity := by
    rw [hp.1]
    exact hp.2
  cases m with
  | submit query => exact hsame _ rfl
  | poll i => exact hpeaks _ (h.proceedIn_peaks 7 i)
  | dropTask i =>
    simp only [Session.move, dropTask_eq setup (hr i)]
    exact hpeaks _ ((interrupt_peaks s i).trans ((h.interrupt i).proceedIn_peaks 2 i))
  | startResize target =>
    simp only [Session.move, Session.startResize]
    split <;> exact hsame _ rfl
  | pollResize id => exact hsame _ (advanceResize_counters s.gate (.resize id)).2.1
  | dropResize id => exact hsame _ rfl
  | pass millis =>
    simp only [Session.move, Session.pass]
    split <;> exact hsame _ rfl
  | take i =>
    simp only [Session.move]
    rcases take_eq s i with he | ⟨events, he⟩ <;> rw [he] <;> exact hsame _ rfl
  | discard i => exact hsame _ rfl

/-- At some time the gate has had a capacity that the peak does not exceed. -/
theorem peak_after (setup : Setup) (maxConcurrency : Nat) (moves : List Move) :
    ∃ k ≤ moves.length, (after setup maxConcurrency moves).gate.peak ≤
      (after setup maxConcurrency (moves.take k)).gate.capacity := by
  -- From the end: the last move either has raised the peak, within the capacity then, or has not.
  induction moves using List.reverseRecOn with
  | nil => exact ⟨0, Nat.le_refl _, Nat.zero_le _⟩
  | append_singleton moves m ih =>
    obtain ⟨k, hk, hle⟩ := ih
    have hstep := (admitted_after setup maxConcurrency moves).move_peak
      (rested_after setup maxConcurrency moves) m
    have hsnoc : after setup maxConcurrency (moves ++ [m]) =
        (after setup maxConcurrency moves).move setup m := by
      simp [after]
    rw [← hsnoc] at hstep
    rcases hstep with hold | hnew
    · refine ⟨k, by simp; omega, ?_⟩
      rw [List.take_append_of_le_length hk]
      exact Nat.le_trans hold hle
    · exact ⟨(moves ++ [m]).length, Nat.le_refl _, by rwa [List.take_length]⟩

/-- After some moves, and also while a worker is in the middle of a poll: the calls under way are
just those of the workers that hold a permit, and they are no more than the capacity says; every
call has been let in by the gate and is the only one of its worker, for the worker's own query; and
there have never been more calls at the same time than the capacity was once. -/
theorem calls_bounded (setup : Setup) (maxConcurrency : Nat) (moves : List Move) (turns i : Nat) :
    let s := (after setup maxConcurrency moves).proceedIn setup turns i
    s.callsInFlight = s.gate.stats.inFlight ∧
    s.callsInFlight = s.workers.countP (·.permit) ∧
    s.callsInFlight ≤ s.gate.stats.capacity ∧
    s.gate.available + s.callsInFlight + s.gate.assigned = s.gate.stats.capacity ∧
    (∀ w ∈ s.workers, w.permit = true ↔ ∃ since reply, w.phase = .calling since reply) ∧
    s.calls.length = s.gate.stats.total ∧
    (s.calls.map (·.1)).Nodup ∧
    (∀ c ∈ s.calls, ∃ w, s.workers[c.1]? = some w ∧ c.2 = w.query.request setup.url) ∧
    s.peakCalls = s.gate.stats.peak ∧ s.callsInFlight ≤ s.peakCalls ∧
    ∃ k ≤ moves.length, s.peakCalls ≤ (after setup maxConcurrency (moves.take k)).gate.capacity := by
  intro s
  have hstart := admitted_after setup maxConcurrency moves
  have h : s.Admitted setup := proceedIn_preserves (fun _ hs => hs.proceed i) turns hstart
  have hflight := h.inFlight
  have hbalance := h.gate.balance
  have hpeak := h.peak
  refine ⟨hflight, ?_, ?_, ?_, ?_, h.total, h.recorded.once, ?_, hpeak, ?_, ?_⟩
  · apply List.countP_congr
    intro w hw
    rw [h.permits w hw]
  · simp only [stats]
    omega
  · simp only [stats]
    omega
  · intro w hw
    rw [h.permits w hw]
    unfold Worker.isCalling
    cases w.phase <;> simp
  · intro c hc
    obtain ⟨w, hlook, _, hown⟩ := h.recorded.own c hc
    exact ⟨w, hlook, hown⟩
  · have := h.gate.peak_ge
    omega
  · obtain ⟨hcap, hle⟩ := hstart.proceedIn_peaks turns i
    rw [hpeak]
    rcases hle with hold | hnew
    · obtain ⟨k, hk, hbefore⟩ := peak_after setup maxConcurrency moves
      exact ⟨k, hk, Nat.le_trans hold hbefore⟩
    · exact ⟨moves.length, Nat.le_refl _, by rwa [List.take_length]⟩

/-- A call is over and its answer has not been looked at: the permit is with the next worker, which
has not run yet. -/
theorem calls_bounded_digesting :
    let s := (after lateBackend 1
      [.submit ⟨"a", none⟩, .submit ⟨"b", none⟩, .poll 0, .poll 1, .pass 5]).proceedIn lateBackend 1 0
    s.callsInFlight = 0 ∧ s.gate.available + s.callsInFlight + s.gate.assigned = 1 ∧
      s.gate.available = 0 ∧ s.calls.length = 1 ∧
      ∃ w ∈ s.workers, w.phase = .digesting (.answered (.error (.body "cut off"))) ∧
        ¬w.permit = true := by
  obtain ⟨hflight, _, _, hbalance, hpermit, htotal, _⟩ := calls_bounded lateBackend 1
    [.submit ⟨"a", none⟩, .submit ⟨"b", none⟩, .poll 0, .poll 1, .pass 5] 1 0
  refine ⟨hflight, hbalance, rfl, htotal, _, .head _, rfl, fun h => ?_⟩
  obtain ⟨since, reply, hp⟩ := (hpermit _ (.head _)).mp h
  cases hp

end MetricBatch.Session
