import MetricBatch.Proofs.Session.Admission

namespace MetricBatch.Session

open Gate

variable {setup : Setup} {s s' : Session} {i : Nat} {w w' : Worker}

structure Attended (s : Session) : Prop where
  waiting : ∀ (i : Nat) (w : Worker), s.workers[i]? = some w → w.phase = .waiting →
    .worker i ∈ s.gate.callers
  changes : ∀ id : Nat, .resize id ∈ s.gate.callers → .resize id ∈ s.gate.resizers

theorem attended_new (setup : Setup) (maxConcurrency : Nat) :
    (new setup maxConcurrency).Attended := by
  refine ⟨?_, ?_⟩ <;> simp [new, Gate.new, callers, waiters]

/-- One worker has changed. It is at the gate if it waits, and everybody else is where it was. -/
theorem Attended.set (h : s.Attended) (hw : s.workers[i]? = some w)
    (hworkers : s'.workers = s.workers.set i w')
    (hself : w'.phase = .waiting → .worker i ∈ s'.gate.callers)
    (hcallers : ∀ c, c ≠ .worker i → (c ∈ s'.gate.callers ↔ c ∈ s.gate.callers))
    (hresizers : s'.gate.resizers = s.gate.resizers) : s'.Attended := by
  have hlt := (List.getElem?_eq_some_iff.mp hw).1
  constructor
  · intro j x hx hp
    rw [hworkers] at hx
    by_cases hj : i = j
    · subst hj
      rw [List.getElem?_set_self hlt, Option.some.injEq] at hx
      exact hself (hx ▸ hp)
    · rw [List.getElem?_set_ne hj] at hx
      refine (hcallers _ ?_).mpr (h.waiting j x hx hp)
      intro he
      rw [Party.worker.injEq] at he
      exact hj he.symm
  · intro id hid
    rw [hresizers]
    exact h.changes id ((hcallers (.resize id) nofun).mp hid)

/-- Nothing has happened at the gate, and the worker does not wait. -/
theorem Attended.inert (h : s.Attended) (hw : s.workers[i]? = some w)
    (hworkers : s'.workers = s.workers.set i w') (hp : w'.phase ≠ .waiting)
    (hgate : s'.gate = s.gate) : s'.Attended := by
  apply h.set hw hworkers (fun he => absurd he hp)
  · intro c _
    rw [hgate]
  · rw [hgate]

theorem Attended.release (h : s.Attended) (hw : s.workers[i]? = some w)
    (hworkers : s'.workers = s.workers.set i w') (hp : w'.phase ≠ .waiting)
    (hgate : s'.gate = s.gate.release) : s'.Attended := by
  apply h.set hw hworkers (fun he => absurd he hp)
  · intro c _
    rw [hgate, Gate.release, addPermits_callers]
    exact Iff.rfl
  · rw [hgate]
    rfl

theorem Attended.proceed (h : s.Attended) (i : Nat) : (s.proceed setup i).Attended := by
  rcases proceed_cases setup s i with ⟨he, _⟩ | ⟨w, hw, hs⟩
  · rwa [he]
  · generalize s.proceed setup i = s' at hs ⊢
    cases hs with
    | start hp =>
      have hcallers := request_callers s.gate (.worker i) 1
      refine h.set hw rfl (fun _ => hcallers.mem_iff.mpr (.head _)) ?_ ?_
      · intro c hc
        exact hcallers.mem_iff.trans (by simp [hc])
      · exact congrArg (List.map Resize.call) (request_frame s.gate (.worker i) 1).1
    | call hp hg =>
      refine h.set hw rfl nofun ?_ rfl
      intro c hc
      exact mem_take_callers.trans (and_iff_left hc)
    | hangUp hp => exact h.release hw rfl nofun rfl
    | digest hp =>
      unfold Session.digest
      dsimp only
      split <;> exact h.inert hw rfl nofun rfl
    | publish hp => exact h.inert hw rfl nofun rfl
    | leave hp =>
      unfold Session.leave
      dsimp only
      split <;> exact h.inert hw rfl nofun rfl
    | close hp => exact h.inert hw rfl nofun rfl

theorem Attended.interrupt (h : s.Attended) (i : Nat) : (s.interrupt i).Attended := by
  rcases interrupt_cases s i with ⟨he, _⟩ | ⟨w, hw, hs⟩
  · rwa [he]
  · generalize s.interrupt i = s' at hs ⊢
    cases hs with
    | created hp => exact h.inert hw rfl nofun rfl
    | waiting hp =>
      refine h.set hw rfl nofun ?_ rfl
      intro c hc
      exact mem_withdraw_callers.trans (and_iff_left hc)
    | calling hp => exact h.release hw rfl nofun rfl

theorem Attended.congr (h : s.Attended) (hw : s'.workers = s.workers) (hg : s'.gate = s.gate) :
    s'.Attended :=
  ⟨by rw [hw, hg]; exact h.waiting, by rw [hg]; exact h.changes⟩

theorem Attended.spawn (h : s.Attended) (query : Query) : (s.spawn query).Attended := by
  refine ⟨?_, h.changes⟩
  intro i w hw hp
  rcases spawn_lookup hw with hold | ⟨_, rfl⟩
  · exact h.waiting i w hold hp
  · cases hp

theorem Attended.discard (h : s.Attended) (i : Nat) : (s.discard i).Attended := by
  refine ⟨?_, h.changes⟩
  intro j w hw hp
  obtain ⟨x, hx, he⟩ := discard_lookup hw
  rcases he with rfl | rfl
  · exact h.waiting j w hx hp
  · exact h.waiting j x hx hp

theorem Attended.startResize (h : s.Attended) (target : Nat) :
    (s.startResize target).Attended := by
  unfold Session.startResize
  split
  · refine ⟨h.waiting, fun id hid => ?_⟩
    rw [startResize_resizers]
    exact List.mem_append_left _ (h.changes id hid)
  · exact h

theorem Attended.pollResize (h : s.Attended) (hg : s.gate.Balanced 0) (id : Nat) :
    (s.pollResize id).1.Attended := by
  constructor
  · intro i w hw hp
    exact advanceResize_stays (h.waiting i w hw hp) nofun
  · intro other hother
    have hhere : Party.resize other ∈ (s.gate.advanceResize (.resize id)).1.callers := hother
    rcases advanceResize_callers hhere with hold | ⟨he, hm⟩
    · have hkept : Party.resize other ∈ (s.gate.advanceResize (.resize id)).1.resizers ∨
          Party.resize other = .resize id ∧ _ := advanceResize_keeps (h.changes other hold)
      rcases hkept with hkept | ⟨he, hover⟩
      · exact hkept
      · rw [he] at hhere
        exact absurd hhere (hg.advanceResize_over hover).1
    · rw [he]
      exact hm

theorem Attended.dropResize (h : s.Attended) (id : Nat) : (s.dropResize id).Attended := by
  constructor
  · intro i w hw hp
    exact mem_cancel_callers.mpr ⟨h.waiting i w hw hp, nofun⟩
  · intro other hother
    obtain ⟨hold, hne⟩ := mem_cancel_callers.mp hother
    obtain ⟨r, hr, hcall⟩ := List.mem_map.mp (h.changes other hold)
    exact List.mem_map.mpr ⟨r, mem_cancel_resizes.mpr ⟨hr, hcall ▸ hne⟩, hcall⟩

theorem Attended.move (h : s.Attended) (ha : s.Admitted setup) (hr : s.Rested) (m : Move) :
    (s.move setup m).Attended := by
  cases m with
  | submit query => exact h.spawn query
  | poll i => exact proceedIn_preserves (fun _ hs => hs.proceed i) 7 h
  | dropTask i =>
    simp only [Session.move, dropTask_eq setup (hr i)]
    exact proceedIn_preserves (fun _ hs => hs.proceed i) 2 (h.interrupt i)
  | startResize target => exact h.startResize target
  | pollResize id => exact h.pollResize ha.gate id
  | dropResize id => exact h.dropResize id
  | pass millis =>
    simp only [Session.move, Session.pass]
    split <;> exact h.congr rfl rfl
  | take i =>
    simp only [Session.move]
    rcases take_eq s i with he | ⟨events, he⟩
    · rwa [he]
    · rw [he]
      exact (h.discard i).congr rfl rfl
  | discard i => exact h.discard i

theorem attended_moves (h : s.Attended) (ha : s.Admitted setup) (hr : s.Rested)
    (moves : List Move) : (moves.foldl (move setup) s).Attended := by
  induction moves generalizing s with
  | nil => exact h
  | cons m rest ih => exact ih (h.move ha hr m) (ha.move hr m) (hr.move m)

theorem attended_after (setup : Setup) (maxConcurrency : Nat) (moves : List Move) :
    (after setup maxConcurrency moves).Attended :=
  attended_moves (attended_new setup maxConcurrency) (admitted_new setup maxConcurrency)
    (rested_new setup maxConcurrency) moves

end MetricBatch.Session
