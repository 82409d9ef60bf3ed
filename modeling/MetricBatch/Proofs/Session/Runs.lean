import MetricBatch.Proofs.Session.Workers

namespace MetricBatch.Session

variable {setup : Setup} {s s' : Session} {i : Nat} {w w' : Worker} {errors : List QueryError}

theorem Changes.same (h : Changes s s' i w w' errors) : s'.workers[i]? = some w' := by
  have hi := (List.getElem?_eq_some_iff.mp h.here).1
  simp [h.workers, hi]

theorem Changes.other (h : Changes s s' i w w' errors) {j : Nat} (hne : j ≠ i) :
    s'.workers[j]? = s.workers[j]? := by
  rw [h.workers, List.getElem?_set_ne hne.symm]

theorem Changes.lookup (h : Changes s s' i w w' errors) {j : Nat} {x : Worker}
    (hx : s'.workers[j]? = some x) : j = i ∧ x = w' ∨ j ≠ i ∧ s.workers[j]? = some x := by
  by_cases hj : j = i
  · subst hj
    rw [h.same, Option.some.injEq] at hx
    exact .inl ⟨rfl, hx.symm⟩
  · exact .inr ⟨hj, by rw [← h.other hj, hx]⟩

theorem Changes.trans {s'' : Session} {w'' : Worker} {errors' : List QueryError}
    (h : Changes s s' i w w' errors) (h' : Changes s' s'' i w' w'' errors') :
    Changes s s'' i w w'' (errors ++ errors') := by
  refine ⟨h.here, ?_, ?_, h'.clock.trans h.clock⟩
  · rw [h'.workers, h.workers, List.set_set]
  · rw [h'.entries, h.entries, List.append_assoc]

theorem proceedIn_preserves {P : Session → Prop}
    (hstep : ∀ s : Session, P s → P (s.proceed setup i)) (turns : Nat) (h : P s) :
    P (s.proceedIn setup turns i) := by
  induction turns generalizing s with
  | zero => exact h
  | succ turns ih => exact ih (hstep s h)

theorem proceedIn_stuck (h : s.proceed setup i = s) (turns : Nat) :
    s.proceedIn setup turns i = s := by
  induction turns with
  | zero => rfl
  | succ turns ih => rwa [proceedIn, h]

/-- Where a worker takes no step, it is between two polls. -/
theorem resting_of_stuck (h : s.proceed setup i = s) :
    ∀ w, s.workers[i]? = some w → w.Resting := by
  rcases proceed_changes setup s i with ⟨_, hrests⟩ | ⟨x, x', errors, hc, hstep⟩
  · exact hrests
  · have hsame := hc.same
    rw [h, hc.here, Option.some.injEq] at hsame
    have hless := hstep.remaining
    rw [hsame] at hless
    exact absurd hless (Nat.lt_irrefl _)

/-- A worker that is run long enough comes to a point where it can take no step. -/
theorem proceedIn_stops {turns : Nat}
    (h : ∀ w, s.workers[i]? = some w → w.phase.remaining ≤ turns) :
    (s.proceedIn setup turns i).proceed setup i = s.proceedIn setup turns i := by
  induction turns generalizing s with
  | zero =>
    rcases proceed_changes setup s i with ⟨hs, _⟩ | ⟨w, w', errors, hc, hstep⟩
    · exact hs
    · have hless := hstep.remaining
      have hnone := h w hc.here
      omega
  | succ turns ih =>
    rcases proceed_changes setup s i with ⟨hs, _⟩ | ⟨w, w', errors, hc, hstep⟩
    · rwa [proceedIn_stuck hs]
    · -- A step that is taken leaves fewer to take, so the turns suffice.
      apply ih
      intro x hx
      rw [hc.same, Option.some.injEq] at hx
      have hless := hstep.remaining
      have hfirst := h w hc.here
      rw [← hx]
      omega

theorem proceedIn_rests {turns : Nat}
    (h : ∀ w, s.workers[i]? = some w → w.phase.remaining ≤ turns) :
    ∀ w, (s.proceedIn setup turns i).workers[i]? = some w → w.Resting :=
  resting_of_stuck (proceedIn_stops h)

theorem poll_stops (setup : Setup) (s : Session) (i : Nat) :
    (s.poll setup i).proceed setup i = s.poll setup i :=
  proceedIn_stops fun w _ => w.phase.remaining_le

/-- At its end a worker that is taken away goes as it would go by itself. -/
theorem unwind_eq (setup : Setup) (h : ∀ w, s.workers[i]? = some w → w.phase.remaining ≤ 2) :
    s.unwind i = s.proceed setup i := by
  unfold unwind proceed
  cases hw : s.workers[i]? with
  | none => rfl
  | some w =>
    have hle := h w hw
    dsimp only
    cases hp : w.phase with
    | leaving | closing | ended => rfl
    | created | waiting | calling | digesting | publishing => simp [hp, Phase.remaining] at hle

theorem interrupt_remaining (h : ∀ w, s.workers[i]? = some w → w.Resting) :
    ∀ w, (s.interrupt i).workers[i]? = some w → w.phase.remaining ≤ 2 := by
  intro w hw
  rcases interrupt_changes s i with ⟨he, hends⟩ | ⟨x, x', hc, hstep⟩
  · rw [he] at hw
    exact hends w hw (h w hw)
  · rw [hc.same, Option.some.injEq] at hw
    rw [← hw]
    exact Nat.le_of_eq hstep.remaining

theorem dropTask_eq (setup : Setup) (h : ∀ w, s.workers[i]? = some w → w.Resting) :
    s.dropTask i = (s.interrupt i).proceedIn setup 2 i := by
  have hfirst := interrupt_remaining h
  have hsecond : ∀ w, ((s.interrupt i).proceed setup i).workers[i]? = some w →
      w.phase.remaining ≤ 2 := by
    intro w hw
    rcases proceed_changes setup (s.interrupt i) i with ⟨he, _⟩ | ⟨x, x', errors, hc, hstep⟩
    · rw [he] at hw
      exact hfirst w hw
    · have hless := hstep.remaining
      have hle := hfirst x hc.here
      rw [hc.same, Option.some.injEq] at hw
      rw [← hw]
      omega
  rw [dropTask, unwind_eq setup hfirst, unwind_eq setup hsecond]
  rfl

/-- Each worker is sound on its own, and all errors come from workers. Only some workers may be
taken away. -/
structure Coherent (setup : Setup) (torn : Nat → Prop) (s : Session) : Prop where
  sound : ∀ (i : Nat) (w : Worker), s.workers[i]? = some w → w.Sound setup s.clock (torn i)
  entries : s.errors.entries.Perm (s.workers.flatMap (·.reported))

variable {torn : Nat → Prop}

theorem coherent_new (setup : Setup) (torn : Nat → Prop) (maxConcurrency : Nat) :
    (new setup maxConcurrency).Coherent setup torn :=
  ⟨by simp [new], by simp [new, ErrorLog.empty]⟩

theorem flatMap_set {α β : Type} {f : α → List β} {l : List α} {i : Nat} {a b : α} {added : List β}
    (hi : l[i]? = some a) (hf : f b = f a ++ added) :
    ((l.set i b).flatMap f).Perm (l.flatMap f ++ added) := by
  induction l generalizing i with
  | nil => simp at hi
  | cons x rest ih =>
    cases i with
    | zero =>
      simp only [List.getElem?_cons_zero, Option.some.injEq] at hi
      subst hi
      simp only [List.set_cons_zero, List.flatMap_cons, hf, List.append_assoc]
      exact List.Perm.append_left _ List.perm_append_comm
    | succ i =>
      simp only [List.getElem?_cons_succ] at hi
      simp only [List.set_cons_succ, List.flatMap_cons, List.append_assoc]
      exact (ih hi).append_left _

/-- The log holds what the workers have reported, whoever reports something more. -/
theorem Changes.entries_perm (hc : Changes s s' i w w' errors)
    (h : s.errors.entries.Perm (s.workers.flatMap (·.reported)))
    (hreported : w'.reported = w.reported ++ errors) :
    s'.errors.entries.Perm (s'.workers.flatMap (·.reported)) := by
  rw [hc.entries, hc.workers]
  exact (h.append_right errors).trans (flatMap_set hc.here hreported).symm

theorem Coherent.changes (h : s.Coherent setup torn) (hc : Changes s s' i w w' errors)
    (hsound : w'.Sound setup s.clock (torn i)) (hreported : w'.reported = w.reported ++ errors) :
    s'.Coherent setup torn := by
  constructor
  · intro j x hx
    rw [hc.clock]
    rcases hc.lookup hx with ⟨rfl, rfl⟩ | ⟨_, hold⟩
    · exact hsound
    · exact h.sound j x hold
  · exact hc.entries_perm h.entries hreported

theorem Coherent.proceed (h : s.Coherent setup torn) (i : Nat) :
    (s.proceed setup i).Coherent setup torn := by
  rcases proceed_changes setup s i with ⟨he, _⟩ | ⟨w, w', errors, hc, hstep⟩
  · rwa [he]
  · exact h.changes hc ((h.sound i w hc.here).steps hstep) hstep.reported

theorem Coherent.poll (h : s.Coherent setup torn) (i : Nat) :
    (s.poll setup i).Coherent setup torn :=
  proceedIn_preserves (fun _ hs => hs.proceed i) 7 h

theorem Coherent.interrupt (h : s.Coherent setup torn) (ht : torn i) :
    (s.interrupt i).Coherent setup torn := by
  rcases interrupt_changes s i with ⟨he, _⟩ | ⟨w, w', hc, hstep⟩
  · rwa [he]
  · exact h.changes hc ((h.sound i w hc.here).interrupted ht hstep)
      (by simp [hstep.reported])

/-- What touches neither workers nor errors nor the clock. -/
theorem Coherent.congr (h : s.Coherent setup torn) (hw : s'.workers = s.workers)
    (he : s'.errors = s.errors) (hc : s'.clock = s.clock) : s'.Coherent setup torn :=
  ⟨by rw [hw, hc]; exact h.sound, by rw [hw, he]; exact h.entries⟩

theorem spawn_lookup {query : Query} (hw : (s.spawn query).workers[i]? = some w) :
    s.workers[i]? = some w ∨ i = s.workers.length ∧ w = .new query := by
  by_cases hi : i < s.workers.length
  · rw [Session.spawn, List.getElem?_append_left hi] at hw
    exact .inl hw
  · rw [Session.spawn, List.getElem?_append_right (Nat.le_of_not_lt hi),
      List.getElem?_singleton] at hw
    split at hw
    · rename_i hzero
      rw [Option.some.injEq] at hw
      exact .inr ⟨by omega, hw.symm⟩
    · cases hw

theorem Coherent.spawn (h : s.Coherent setup torn) (query : Query) :
    (s.spawn query).Coherent setup torn := by
  constructor
  · intro i w hw
    rcases spawn_lookup hw with hold | ⟨_, rfl⟩
    · exact h.sound i w hold
    · exact Worker.sound_new query
  · simpa [Session.spawn, Worker.new] using h.entries

theorem le_of_all_min {times : List Nat} {time t : Nat}
    (h : times.min?.all (time ≤ ·) = true) (ht : t ∈ times) : time ≤ t := by
  cases hm : times.min? with
  | none => simp [List.min?_eq_none_iff.mp hm] at ht
  | some least =>
    have hle := (List.min?_eq_some_iff.mp hm).2 t ht
    simp only [hm, Option.all_some, decide_eq_true_eq] at h
    omega

/-- What is not after the next end of a call is not after the end of any call. -/
theorem le_end {time : Nat} (h : (s.nextEnd? setup).all (time ≤ ·) = true) (hw : w ∈ s.workers)
    {since : Nat} {reply : Reply} (hp : w.phase = .calling since reply) :
    time ≤ since + reply.duration setup.limit :=
  le_of_all_min h (List.mem_filterMap.mpr ⟨w, hw, by simp [Worker.ends?, hp]⟩)

/-- Time passes, but not beyond the end of a call. -/
theorem Coherent.pass (h : s.Coherent setup torn) (millis : Nat) :
    (s.pass setup millis).Coherent setup torn := by
  unfold Session.pass
  split
  · rename_i hpass
    have hends := (Bool.and_eq_true_iff.mp hpass).2
    refine ⟨?_, h.entries⟩
    intro i w hw
    have hsound := h.sound i w hw
    have hmem := List.mem_of_getElem? hw
    unfold Worker.Sound at hsound ⊢
    cases hp : w.phase with
    | calling since reply =>
      have hle := le_end hends hmem hp
      simp only [hp] at hsound ⊢
      obtain ⟨hu, hr, hsince, _⟩ := hsound
      exact ⟨hu, hr, by omega, hle⟩
    | created | waiting | digesting | publishing | leaving | closing | ended =>
      simpa only [hp] using hsound
  · exact h

/-- Giving results up changes nothing else about a worker. -/
theorem discard_map {α : Type} {f : Worker → α} (hf : ∀ w, f { w with wanted := false } = f w)
    (s : Session) (i : Nat) : (s.discard i).workers.map f = s.workers.map f := by
  apply List.ext_getElem?
  intro j
  simp only [Session.discard, List.getElem?_map, List.getElem?_modify]
  cases s.workers[j]? with
  | none => rfl
  | some w =>
    by_cases hj : i = j
    · simp [hj, hf]
    · simp [hj]

theorem discard_lookup {j : Nat} (hw : (s.discard i).workers[j]? = some w) :
    ∃ x, s.workers[j]? = some x ∧ (w = x ∨ w = { x with wanted := false }) := by
  rw [Session.discard, List.getElem?_modify] at hw
  obtain ⟨x, hx, rfl⟩ := Option.map_eq_some_iff.mp hw
  refine ⟨x, hx, ?_⟩
  split
  · exact .inr rfl
  · exact .inl rfl

theorem discard_reported (s : Session) (i : Nat) :
    (s.discard i).workers.flatMap (·.reported) = s.workers.flatMap (·.reported) := by
  rw [List.flatMap_def, discard_map (f := (·.reported)) (fun _ => rfl), ← List.flatMap_def]

theorem Coherent.discard (h : s.Coherent setup torn) (i : Nat) :
    (s.discard i).Coherent setup torn := by
  constructor
  · intro j w hw
    obtain ⟨x, hx, he⟩ := discard_lookup hw
    rcases he with rfl | rfl
    · exact h.sound j w hx
    · exact h.sound j x hx
  · rw [discard_reported]
    exact h.entries

/-- Whoever takes results leaves the session as if they were given up, but for the log. -/
theorem take_eq (s : Session) (i : Nat) :
    (s.take i).1 = s ∨ ∃ events, (s.take i).1 = (s.discard i).note events := by
  unfold Session.take
  split
  · exact .inl rfl
  · split
    · exact .inl rfl
    · exact .inr ⟨_, rfl⟩

theorem Coherent.take (h : s.Coherent setup torn) (i : Nat) :
    (s.take i).1.Coherent setup torn := by
  rcases take_eq s i with he | ⟨events, he⟩
  · rwa [he]
  · rw [he]
    exact (h.discard i).congr rfl rfl rfl

/-- Between two moves no worker is in the middle of a step. -/
def Rested (s : Session) : Prop := ∀ (i : Nat) (w : Worker), s.workers[i]? = some w → w.Resting

theorem proceedIn_other {j : Nat} (hne : j ≠ i) (turns : Nat) :
    (s.proceedIn setup turns i).workers[j]? = s.workers[j]? := by
  apply proceedIn_preserves (P := fun t => t.workers[j]? = s.workers[j]?) _ turns rfl
  intro t ht
  rcases proceed_changes setup t i with ⟨he, _⟩ | ⟨w, w', errors, hc, _⟩
  · rwa [he]
  · rwa [hc.other hne]

theorem interrupt_other {j : Nat} (hne : j ≠ i) :
    (s.interrupt i).workers[j]? = s.workers[j]? := by
  rcases interrupt_changes s i with ⟨he, _⟩ | ⟨w, w', hc, _⟩
  · rw [he]
  · exact hc.other hne

theorem Rested.poll (h : s.Rested) (i : Nat) : (s.poll setup i).Rested := by
  intro j w hw
  by_cases hj : j = i
  · subst hj
    exact resting_of_stuck (poll_stops setup s j) w hw
  · rw [Session.poll, proceedIn_other hj] at hw
    exact h j w hw

theorem Rested.dropTask (setup : Setup) (h : s.Rested) (i : Nat) : (s.dropTask i).Rested := by
  rw [dropTask_eq setup (h i)]
  intro j w hw
  by_cases hj : j = i
  · subst hj
    exact proceedIn_rests (interrupt_remaining (h j)) w hw
  · rw [proceedIn_other hj, interrupt_other hj] at hw
    exact h j w hw

theorem Rested.spawn (h : s.Rested) (query : Query) : (s.spawn query).Rested := by
  intro i w hw
  rcases spawn_lookup hw with hold | ⟨_, rfl⟩
  · exact h i w hold
  · exact trivial

theorem Rested.discard (h : s.Rested) (i : Nat) : (s.discard i).Rested := by
  intro j w hw
  obtain ⟨x, hx, he⟩ := discard_lookup hw
  rcases he with rfl | rfl
  · exact h j w hx
  · exact h j x hx

theorem Rested.move (h : s.Rested) (m : Move) : (s.move setup m).Rested := by
  cases m with
  | submit query => exact h.spawn query
  | poll i => exact h.poll i
  | dropTask i => exact h.dropTask setup i
  | startResize target =>
    simp only [Session.move, Session.startResize]
    split <;> exact h
  | pollResize id => exact h
  | dropResize id => exact h
  | pass millis =>
    simp only [Session.move, Session.pass]
    split <;> exact h
  | take i =>
    simp only [Session.move]
    rcases take_eq s i with he | ⟨events, he⟩
    · rwa [he]
    · rw [he]
      exact h.discard i
  | discard i => exact h.discard i

theorem Coherent.move (h : s.Coherent setup torn) (hr : s.Rested) (m : Move)
    (ht : ∀ i, m = .dropTask i → torn i) : (s.move setup m).Coherent setup torn := by
  cases m with
  | submit query => exact h.spawn query
  | poll i => exact h.poll i
  | dropTask i =>
    simp only [Session.move, dropTask_eq setup (hr i)]
    exact proceedIn_preserves (fun _ hs => hs.proceed i) 2 (h.interrupt (ht i rfl))
  | startResize target =>
    simp only [Session.move, Session.startResize]
    split
    · exact h.congr rfl rfl rfl
    · exact h
  | pollResize id => exact h.congr rfl rfl rfl
  | dropResize id => exact h.congr rfl rfl rfl
  | pass millis => exact h.pass millis
  | take i => exact h.take i
  | discard i => exact h.discard i

theorem map_set_same {α β : Type} {f : α → β} {l : List α} {i : Nat} {a b : α}
    (hi : l[i]? = some a) (hf : f b = f a) : (l.set i b).map f = l.map f := by
  obtain ⟨hlt, rfl⟩ := List.getElem?_eq_some_iff.mp hi
  rw [List.map_set, hf, ← List.getElem_map f (h := by simpa using hlt), List.set_getElem_self]

theorem proceedIn_queries (setup : Setup) (s : Session) (turns i : Nat) :
    (s.proceedIn setup turns i).workers.map (·.query) = s.workers.map (·.query) := by
  apply proceedIn_preserves (P := fun t => t.workers.map (·.query) = s.workers.map (·.query)) _
    turns rfl
  intro t ht
  rcases proceed_changes setup t i with ⟨he, _⟩ | ⟨w, w', errors, hc, hstep⟩
  · rwa [he]
  · rw [hc.workers, map_set_same hc.here hstep.query, ht]

theorem interrupt_queries (s : Session) (i : Nat) :
    (s.interrupt i).workers.map (·.query) = s.workers.map (·.query) := by
  rcases interrupt_changes s i with ⟨he, _⟩ | ⟨w, w', hc, hstep⟩
  · rw [he]
  · rw [hc.workers, map_set_same hc.here hstep.query]

/-- Only submitting adds a worker, and no move gives a worker another query. -/
theorem queries_move (setup : Setup) (hr : s.Rested) (m : Move) :
    (s.move setup m).workers.map (·.query) = s.workers.map (·.query) ++ submitted [m] := by
  have hnone : s.workers.map (·.query) = s.workers.map (·.query) ++ [] := by simp
  have hdiscard (i : Nat) := discard_map (f := (·.query)) (fun _ => rfl) s i
  cases m with
  | submit query => simp [Session.move, Session.spawn, Worker.new, submitted]
  | poll i => exact (proceedIn_queries setup s 7 i).trans hnone
  | dropTask i =>
    simp only [Session.move, dropTask_eq setup (hr i), proceedIn_queries, interrupt_queries]
    exact hnone
  | startResize target =>
    simp only [Session.move, Session.startResize]
    split <;> exact hnone
  | pollResize id => exact hnone
  | dropResize id => exact hnone
  | pass millis =>
    simp only [Session.move, Session.pass]
    split <;> exact hnone
  | take i =>
    simp only [Session.move]
    rcases take_eq s i with he | ⟨events, he⟩
    · rw [he]
      exact hnone
    · rw [he]
      exact (hdiscard i).trans hnone
  | discard i => exact (hdiscard i).trans hnone

theorem rested_moves (setup : Setup) (hr : s.Rested) (moves : List Move) :
    (moves.foldl (move setup) s).Rested := by
  induction moves generalizing s with
  | nil => exact hr
  | cons m rest ih => exact ih (hr.move m)

theorem coherent_moves (h : s.Coherent setup torn) (hr : s.Rested) {moves : List Move}
    (ht : ∀ i, .dropTask i ∈ moves → torn i) :
    (moves.foldl (move setup) s).Coherent setup torn := by
  induction moves generalizing s with
  | nil => exact h
  | cons m rest ih =>
    apply ih
    · exact h.move hr m fun i he => ht i (by simp [he])
    · exact hr.move m
    · exact fun i hi => ht i (List.mem_cons_of_mem _ hi)

theorem queries_moves (setup : Setup) (hr : s.Rested) (moves : List Move) :
    (moves.foldl (move setup) s).workers.map (·.query) =
      s.workers.map (·.query) ++ submitted moves := by
  induction moves generalizing s with
  | nil => simp [submitted]
  | cons m rest ih =>
    rw [List.foldl_cons, ih (hr.move m), queries_move setup hr m, List.append_assoc]
    simp [submitted, ← List.filterMap_append]

variable (setup) (maxConcurrency : Nat) (moves : List Move)

theorem rested_new : (new setup maxConcurrency).Rested := by simp [Rested, new]

theorem rested_after : (after setup maxConcurrency moves).Rested :=
  rested_moves setup (rested_new setup maxConcurrency) moves

/-- Whoever is not taken away comes to the outcome of its own reply. -/
theorem coherent_after :
    (after setup maxConcurrency moves).Coherent setup fun i => .dropTask i ∈ moves :=
  coherent_moves (coherent_new setup _ maxConcurrency) (rested_new setup maxConcurrency)
    fun _ hi => hi

theorem queries_after :
    (after setup maxConcurrency moves).workers.map (·.query) = submitted moves :=
  queries_moves setup (rested_new setup maxConcurrency) moves

/-- A backend whose answers are cut off after five milliseconds, which is just what a call may
take. -/
def lateBackend : Setup :=
  { name := "late"
    url := fun _ => ⟨"http", none, .bare "", none, none⟩
    timeout := .ofMillis 5
    backend := fun _ => .answer 5 (.error (.body "cut off")) }

end MetricBatch.Session
