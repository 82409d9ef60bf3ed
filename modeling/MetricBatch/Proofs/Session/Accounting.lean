import MetricBatch.Proofs.Session.Runs

namespace MetricBatch

namespace Worker

variable {setup : Setup} {clock : Nat} {torn : Prop} {w : Worker}

/-- There is nothing to read and nothing was reported. -/
def Unfinished (w : Worker) : Prop := w.results? = none ∧ w.published = [] ∧ w.reported = []

/-- One result was sent, and nothing was reported. -/
def Succeeded (w : Worker) : Prop :=
  ∃ results, w.published = [results] ∧ w.results? = some results ∧
    results.query = w.query.text ∧ results.kind.isSome = true ∧ w.reported = []

/-- A placeholder is there to read, and one error was reported. -/
def Failed (w : Worker) : Prop :=
  w.results? = some (.placeholder w.query.text) ∧
    w.reported.map (·.query) = [w.query.text]

instance (w : Worker) : Decidable w.Succeeded :=
  decidable_of_iff
    (∃ results ∈ w.published, w.published = [results] ∧ w.results? = some results ∧
      results.query = w.query.text ∧ results.kind.isSome = true ∧ w.reported = [])
    ⟨fun ⟨results, _, h⟩ => ⟨results, h⟩,
      fun ⟨results, h⟩ => ⟨results, by simp [h.1], h⟩⟩

instance (w : Worker) : Decidable w.Failed := inferInstanceAs (Decidable (_ ∧ _))

theorem Untouched.unfinished (h : w.Untouched) : w.Unfinished := by
  obtain ⟨hsender, hpublished, hreported⟩ := h
  exact ⟨by simp [results?, hpublished, hsender], hpublished, hreported⟩

theorem Unfinished.untouched (h : w.Unfinished) : w.Untouched := by
  obtain ⟨hresults, hpublished, hreported⟩ := h
  refine ⟨?_, hpublished, hreported⟩
  simpa [results?, hpublished] using hresults

theorem MayEnd.kind {o : Outcome} (h : w.MayEnd setup torn o) :
    o.results.query = w.query.text ∧ o.results.kind.isSome = true ∧ o.error? = none ∨
      o.results = .placeholder w.query.text ∧
        ∃ error, o.error? = some error ∧ error.query = w.query.text := by
  rcases h with rfl | ⟨_, rfl⟩
  · exact (verdict_outcome _ _ _).kind
  · exact .inr ⟨rfl, _, rfl, rfl⟩

theorem Interrupted.leaving {w' : Worker} (h : w.Interrupted w') (hu : w.Untouched) :
    w'.phase = .leaving ∧ w'.Untouched := by
  cases h <;> exact ⟨rfl, hu⟩

/-- What is not finished has not ended, and has not begun to tell anything. -/
theorem Sound.unfinished_iff (h : w.Sound setup clock torn) (hr : w.Resting) :
    w.Unfinished ↔ w.phase ≠ .ended := by
  constructor
  · intro hu he
    obtain ⟨_, _, hresults, _⟩ := h.ended he
    simp [hu.1] at hresults
  · intro hn
    cases hp : w.phase with
    | created | waiting =>
      rw [Sound, hp] at h
      exact h.unfinished
    | calling since reply =>
      rw [Sound, hp] at h
      exact h.1.unfinished
    | digesting | publishing | leaving | closing => simp [Resting, hp] at hr
    | ended => exact absurd hp hn

theorem Sound.accounted (h : w.Sound setup clock torn) (hr : w.Resting) :
    w.Unfinished ∨ w.Succeeded ∨ w.Failed := by
  by_cases he : w.phase = .ended
  · right
    obtain ⟨o, ho, hresults, hpublished, hreported⟩ := h.ended he
    rcases ho.kind with ⟨hquery, hkind, hnone⟩ | ⟨hplaceholder, error, herror, hquery⟩
    · have hkept : o.isLost = false := by
        cases o with
        | lost query => cases hnone
        | succeeded | failed => rfl
      exact .inl ⟨o.results, by simp [hpublished, Outcome.sent, hkept], hresults, hquery, hkind,
        by simp [hreported, hnone]⟩
    · exact .inr ⟨by rw [hresults, hplaceholder], by simp [hreported, herror, hquery]⟩
  · exact .inl ((h.unfinished_iff hr).mpr he)

theorem not_unfinished_of_succeeded (h : w.Succeeded) : ¬w.Unfinished := by
  obtain ⟨results, _, hresults, _⟩ := h
  intro hu
  simp [hu.1] at hresults

theorem not_unfinished_of_failed (h : w.Failed) : ¬w.Unfinished := by
  intro hu
  simp [Failed, hu.1] at h

theorem not_failed_of_reported_nil (h : w.reported = []) : ¬w.Failed := by
  simp [Failed, h]

/-- The three conditions exclude each other. -/
theorem Sound.accounted_once (h : w.Sound setup clock torn) (hr : w.Resting) :
    (w.Unfinished ∧ ¬w.Succeeded ∧ ¬w.Failed) ∨ (w.Succeeded ∧ ¬w.Unfinished ∧ ¬w.Failed) ∨
      (w.Failed ∧ ¬w.Unfinished ∧ ¬w.Succeeded) := by
  rcases h.accounted hr with hu | hs | hf
  · refine .inl ⟨hu, fun hs => not_unfinished_of_succeeded hs hu, ?_⟩
    exact fun hf => not_unfinished_of_failed hf hu
  · refine .inr (.inl ⟨hs, not_unfinished_of_succeeded hs, ?_⟩)
    obtain ⟨_, _, _, _, _, hreported⟩ := hs
    exact not_failed_of_reported_nil hreported
  · refine .inr (.inr ⟨hf, not_unfinished_of_failed hf, ?_⟩)
    rintro ⟨_, _, _, _, _, hreported⟩
    exact not_failed_of_reported_nil hreported hf

/-- A worker reports one error if it fails and none if it does not. -/
theorem Sound.reported_length (h : w.Sound setup clock torn) (hr : w.Resting) :
    w.reported.length = if w.Failed then 1 else 0 := by
  rcases h.accounted hr with hu | hs | hf
  · simp [hu.2.2, not_failed_of_reported_nil hu.2.2]
  · obtain ⟨_, _, _, _, _, hreported⟩ := hs
    simp [hreported, not_failed_of_reported_nil hreported]
  · have hlen := congrArg List.length hf.2
    simpa [hf] using hlen

end Worker

namespace Session

theorem length_flatMap_countP {α β : Type} {f : α → List β} {p : α → Bool} {l : List α}
    (h : ∀ a ∈ l, (f a).length = if p a then 1 else 0) : (l.flatMap f).length = l.countP p := by
  induction l with
  | nil => rfl
  | cons a rest ih =>
    have hfirst := h a (by simp)
    have hrest := ih fun b hb => h b (List.mem_cons_of_mem _ hb)
    simp only [List.flatMap_cons, List.length_append, List.countP_cons, hfirst, hrest]
    omega

theorem unwind_leaving {s : Session} {i : Nat} {w : Worker} (hw : s.workers[i]? = some w)
    (hp : w.phase = .leaving) (hs : w.sender = true) :
    Changes s (s.unwind i) i w { w with phase := .closing, reported := w.reported ++ [w.loss] }
      [w.loss] := by
  have hstep : s.unwind i = s.report i { w with phase := .closing } w.loss := by
    simp [unwind, hw, hp, leave, hs]
  rw [hstep]
  exact ⟨hw, rfl, rfl, rfl⟩

theorem unwind_closing {s : Session} {i : Nat} {w : Worker} (hw : s.workers[i]? = some w)
    (hp : w.phase = .closing) :
    Changes s (s.unwind i) i w { w with phase := .ended, sender := false } [] := by
  have hstep : s.unwind i = s.close i w := by simp [unwind, hw, hp]
  rw [hstep]
  exact changes_silent hw rfl rfl rfl

/-- A worker that leaves without having sent anything tells of its loss and is gone. -/
theorem unwind_changes {s : Session} {i : Nat} {w : Worker} (hw : s.workers[i]? = some w)
    (hp : w.phase = .leaving) (hs : w.sender = true) :
    Changes s ((s.unwind i).unwind i) i w
      { w with phase := .ended, sender := false, reported := w.reported ++ [w.loss] } [w.loss] := by
  have hfirst := unwind_leaving hw hp hs
  exact hfirst.trans (unwind_closing hfirst.same rfl)

theorem dropTask_changes {s : Session} {i : Nat} {w : Worker} (hw : s.workers[i]? = some w)
    (hr : w.Resting) (he : w.phase ≠ .ended) (hu : w.Untouched) :
    ∃ x, w.Interrupted x ∧ Changes s (s.dropTask i) i w
      { x with phase := .ended, sender := false, reported := x.reported ++ [x.loss] } [x.loss] := by
  rcases interrupt_changes s i with ⟨_, hends⟩ | ⟨y, x, hc, hint⟩
  · have hzero := hends w hw hr
    cases hp : w.phase <;> simp [hp, Phase.remaining, Worker.Resting] at hzero hr he
  · have hy : y = w := Option.some.inj (hc.here.symm.trans hw)
    subst hy
    obtain ⟨hp, hs, _⟩ := hint.leaving hu
    exact ⟨x, hint, hc.trans (unwind_changes hc.same hp hs)⟩

/-- A worker that is taken away before its end tells of its loss and sends nothing. -/
theorem dropTask_failed {s : Session} {i : Nat} {w : Worker} (hw : s.workers[i]? = some w)
    (hr : w.Resting) (he : w.phase ≠ .ended) (hu : w.Untouched) :
    ∃ w', (s.dropTask i).workers[i]? = some w' ∧ w'.query = w.query ∧ w'.phase = .ended ∧
      w'.Failed := by
  obtain ⟨x, hint, hc⟩ := dropTask_changes hw hr he hu
  obtain ⟨_, _, hpublished, hreported⟩ := hint.leaving hu
  refine ⟨_, hc.same, hint.query, rfl, ?_, ?_⟩
  · simp [Worker.results?, hpublished]
  · simp [hreported, Worker.loss, QueryError.query]

/-- Each query that was submitted has a worker of its own, which is in just one of three conditions;
there are as many errors as workers that failed, and readers do not touch them. A query is
unfinished until its worker ends, and to take the worker away before that makes it fail. -/
theorem queries_accounted (setup : Setup) (maxConcurrency : Nat) (moves : List Move) :
    let s := after setup maxConcurrency moves
    s.workers.map (·.query) = submitted moves ∧
    (∀ w ∈ s.workers,
      (w.Unfinished ∧ ¬w.Succeeded ∧ ¬w.Failed) ∨ (w.Succeeded ∧ ¬w.Unfinished ∧ ¬w.Failed) ∨
        (w.Failed ∧ ¬w.Unfinished ∧ ¬w.Succeeded)) ∧
    s.errors.entries.Perm (s.workers.flatMap (·.reported)) ∧
    s.errors.size = s.workers.countP (fun w => w.Failed) ∧
    (∀ i, (s.take i).1.errors = s.errors ∧ (s.drop i).1.errors = s.errors) ∧
    ∀ i w, s.workers[i]? = some w → (w.Unfinished ↔ w.phase ≠ .ended) ∧
      (w.Unfinished → ∃ w', (s.dropTask i).workers[i]? = some w' ∧ w'.query = w.query ∧
        w'.phase = .ended ∧ w'.Failed) := by
  intro s
  have h := coherent_after setup maxConcurrency moves
  have hr := rested_after setup maxConcurrency moves
  refine ⟨queries_after setup maxConcurrency moves, ?_, h.entries, ?_, ?_, ?_⟩
  · intro w hw
    obtain ⟨i, hi⟩ := List.mem_iff_getElem?.mp hw
    exact (h.sound i w hi).accounted_once (hr i w hi)
  · rw [ErrorLog.size, h.entries.length_eq]
    apply length_flatMap_countP
    intro w hw
    obtain ⟨i, hi⟩ := List.mem_iff_getElem?.mp hw
    simpa using (h.sound i w hi).reported_length (hr i w hi)
  · intro i
    constructor
    · rcases take_eq s i with he | ⟨events, he⟩
      · rw [he]
      · rw [he]
        rfl
    · unfold drop
      split <;> rfl
  · intro i w hw
    have hends := (h.sound i w hw).unfinished_iff (hr i w hw)
    exact ⟨hends, fun hu => dropTask_failed hw (hr i w hw) (hends.mp hu) hu.untouched⟩

/-- One query fails by itself, one while its worker waits, and one has not run. -/
theorem queries_accounted_torn :
    let s := after lateBackend 1
      [.submit ⟨"a", none⟩, .submit ⟨"b", none⟩, .poll 0, .poll 1, .dropTask 1, .pass 5, .poll 0,
        .submit ⟨"c", none⟩]
    s.workers.countP (fun w => w.Failed) = 2 ∧ ∃ w, s.workers[2]? = some w ∧ w.Unfinished := by
  obtain ⟨_, _, _, hsize, _, h⟩ := queries_accounted lateBackend 1
    [.submit ⟨"a", none⟩, .submit ⟨"b", none⟩, .poll 0, .poll 1, .dropTask 1, .pass 5, .poll 0,
      .submit ⟨"c", none⟩]
  refine ⟨hsize.symm.trans (by rfl), _, rfl, ?_⟩
  exact (h 2 _ rfl).1.mpr (by nofun)

end Session

end MetricBatch
