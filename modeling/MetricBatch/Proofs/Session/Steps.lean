import MetricBatch.Session.Moves

namespace MetricBatch

/-- A worker that is between two polls. -/
def Worker.Resting (w : Worker) : Prop :=
  match w.phase with
  | .created | .waiting | .calling _ _ | .ended => True
  | _ => False

instance (w : Worker) : Decidable w.Resting :=
  match h : w.phase with
  | .created | .waiting | .calling _ _ | .ended => .isTrue (by simp [Worker.Resting, h])
  | .digesting _ | .publishing _ | .leaving | .closing => .isFalse (by simp [Worker.Resting, h])

/-- How many steps a worker has to its end, at most. -/
def Phase.remaining : Phase → Nat
  | .created => 7
  | .waiting => 6
  | .calling _ _ => 5
  | .digesting _ => 4
  | .publishing _ => 3
  | .leaving => 2
  | .closing => 1
  | .ended => 0

theorem Phase.remaining_le (phase : Phase) : phase.remaining ≤ 7 := by
  cases phase <;> simp [remaining]

/-- A step of a worker at some time: what it is afterwards, and which errors it reports. -/
inductive Worker.Steps (setup : Setup) (clock : Nat) (w : Worker) :
    Worker → List QueryError → Prop where
  | start (hp : w.phase = .created) : Steps setup clock w { w with phase := .waiting } []
  | call (hp : w.phase = .waiting) :
    Steps setup clock w
      { w with phase := .calling clock (setup.reply w.query), permit := true } []
  | hangUp {since : Nat} {reply : Reply} {result : CallEnd} (hp : w.phase = .calling since reply)
    (hr : reply.poll setup.limit (clock - since) = some result) :
    Steps setup clock w { w with phase := .digesting result, permit := false } []
  | succeed {result : CallEnd} {results : QueryResults} (hp : w.phase = .digesting result)
    (ho : result.outcome setup.timeout w.query.text = .succeeded results) :
    Steps setup clock w { w with phase := .publishing results } []
  | fail {result : CallEnd} {error : QueryError} (hp : w.phase = .digesting result)
    (ho : result.outcome setup.timeout w.query.text = .failed error) :
    Steps setup clock w
      { w with
        phase := .publishing (.placeholder w.query.text)
        reported := w.reported ++ [error] } [error]
  | die {result : CallEnd} {query : String} (hp : w.phase = .digesting result)
    (ho : result.outcome setup.timeout w.query.text = .lost query) :
    Steps setup clock w { w with phase := .leaving } []
  | publish {results : QueryResults} (hp : w.phase = .publishing results) :
    Steps setup clock w { w.publish results with phase := .leaving } []
  | lose (hp : w.phase = .leaving) (hs : w.sender = true) :
    Steps setup clock w
      { w with phase := .closing, reported := w.reported ++ [w.loss] } [w.loss]
  | leave (hp : w.phase = .leaving) (hs : w.sender = false) :
    Steps setup clock w { w with phase := .closing } []
  | close (hp : w.phase = .closing) :
    Steps setup clock w { w with phase := .ended, sender := false } []

/-- A worker is taken out of what it waits for. -/
inductive Worker.Interrupted (w : Worker) : Worker → Prop where
  | created (hp : w.phase = .created) : Interrupted w { w with phase := .leaving }
  | waiting (hp : w.phase = .waiting) : Interrupted w { w with phase := .leaving }
  | calling {since : Nat} {reply : Reply} (hp : w.phase = .calling since reply) :
    Interrupted w { w with phase := .leaving, permit := false }

namespace Worker

variable {setup : Setup} {clock : Nat} {w w' : Worker} {errors : List QueryError}

theorem Steps.query (h : w.Steps setup clock w' errors) : w'.query = w.query := by
  cases h with
  | publish =>
    simp only [Worker.publish]
    split <;> rfl
  | start | call | hangUp | succeed | fail | die | lose | leave | close => rfl

theorem Steps.reported (h : w.Steps setup clock w' errors) :
    w'.reported = w.reported ++ errors := by
  cases h with
  | publish =>
    simp only [Worker.publish]
    split <;> simp
  | fail | lose => rfl
  | start | call | hangUp | succeed | die | leave | close => simp

theorem Steps.remaining (h : w.Steps setup clock w' errors) :
    w'.phase.remaining < w.phase.remaining := by
  cases h with
  | start hp | call hp | hangUp hp | succeed hp | fail hp | die hp | publish hp | lose hp
  | leave hp | close hp => simp [hp, Phase.remaining]

theorem Interrupted.query (h : w.Interrupted w') : w'.query = w.query := by
  cases h <;> rfl

theorem Interrupted.reported (h : w.Interrupted w') : w'.reported = w.reported := by
  cases h <;> rfl

theorem Interrupted.remaining (h : w.Interrupted w') : w'.phase.remaining = 2 := by
  cases h <;> rfl

end Worker

namespace Session

/-- One worker of a session has changed and has reported some errors. All other workers, all other
errors and the time are as before. -/
structure Changes (s s' : Session) (i : Nat) (w w' : Worker) (errors : List QueryError) :
    Prop where
  here : s.workers[i]? = some w
  workers : s'.workers = s.workers.set i w'
  entries : s'.errors.entries = s.errors.entries ++ errors
  clock : s'.clock = s.clock

variable {setup : Setup} {s : Session} {i : Nat} {w : Worker}

/-- What a worker that runs on can do. -/
inductive Proceeds (setup : Setup) (s : Session) (i : Nat) (w : Worker) : Session → Prop where
  | start (hp : w.phase = .created) : Proceeds setup s i w (s.start i w)
  | call (hp : w.phase = .waiting) (hg : s.gate.isGranted (.worker i) = true) :
    Proceeds setup s i w (s.call setup i w)
  | hangUp {since : Nat} {reply : Reply} {result : CallEnd} (hp : w.phase = .calling since reply)
    (hr : reply.poll setup.limit (s.clock - since) = some result) :
    Proceeds setup s i w (s.hangUp i w result)
  | digest {result : CallEnd} (hp : w.phase = .digesting result) :
    Proceeds setup s i w (s.digest setup i w result)
  | publish {results : QueryResults} (hp : w.phase = .publishing results) :
    Proceeds setup s i w (s.publish i w results)
  | leave (hp : w.phase = .leaving) : Proceeds setup s i w (s.leave i w)
  | close (hp : w.phase = .closing) : Proceeds setup s i w (s.close i w)

theorem proceed_cases (setup : Setup) (s : Session) (i : Nat) :
    (s.proceed setup i = s ∧ ∀ w, s.workers[i]? = some w → w.Resting) ∨
      ∃ w, s.workers[i]? = some w ∧ Proceeds setup s i w (s.proceed setup i) := by
  unfold proceed
  cases hw : s.workers[i]? with
  | none => exact .inl ⟨rfl, by simp⟩
  | some w =>
    dsimp only
    cases hp : w.phase with
    | created => exact .inr ⟨w, rfl, .start hp⟩
    | waiting =>
      dsimp only
      split
      · rename_i hg
        exact .inr ⟨w, rfl, .call hp hg⟩
      · exact .inl ⟨rfl, by simp [Worker.Resting, hp]⟩
    | calling since reply =>
      dsimp only
      split
      · rename_i result hr
        exact .inr ⟨w, rfl, .hangUp hp hr⟩
      · exact .inl ⟨rfl, by simp [Worker.Resting, hp]⟩
    | digesting result => exact .inr ⟨w, rfl, .digest hp⟩
    | publishing results => exact .inr ⟨w, rfl, .publish hp⟩
    | leaving => exact .inr ⟨w, rfl, .leave hp⟩
    | closing => exact .inr ⟨w, rfl, .close hp⟩
    | ended => exact .inl ⟨rfl, by simp [Worker.Resting, hp]⟩

/-- What taking a worker out of what it waits for can do. -/
inductive Interrupts (s : Session) (i : Nat) (w : Worker) : Session → Prop where
  | created (hp : w.phase = .created) :
    Interrupts s i w (s.setWorker i { w with phase := .leaving })
  | waiting (hp : w.phase = .waiting) :
    Interrupts s i w
      ({ s with gate := s.gate.withdraw (.worker i) }.setWorker i { w with phase := .leaving })
  | calling {since : Nat} {reply : Reply} (hp : w.phase = .calling since reply) :
    Interrupts s i w
      (({ s with gate := s.gate.release }.setWorker i
        { w with phase := .leaving, permit := false }).note [.released])

theorem interrupt_cases (s : Session) (i : Nat) :
    (s.interrupt i = s ∧
      ∀ w, s.workers[i]? = some w → w.Resting → w.phase.remaining ≤ 2) ∨
      ∃ w, s.workers[i]? = some w ∧ Interrupts s i w (s.interrupt i) := by
  unfold interrupt
  cases hw : s.workers[i]? with
  | none => exact .inl ⟨rfl, by simp⟩
  | some w =>
    dsimp only
    cases hp : w.phase with
    | created => exact .inr ⟨w, rfl, .created hp⟩
    | waiting => exact .inr ⟨w, rfl, .waiting hp⟩
    | calling since reply => exact .inr ⟨w, rfl, .calling hp⟩
    | digesting | publishing | leaving | closing | ended =>
      exact .inl ⟨rfl, by simp [Worker.Resting, Phase.remaining, hp]⟩

theorem digest_gate (s : Session) (i : Nat) (w : Worker) (result : CallEnd) :
    (s.digest setup i w result).gate = s.gate := by
  unfold digest
  dsimp only
  split <;> rfl

theorem leave_gate (s : Session) (i : Nat) (w : Worker) : (s.leave i w).gate = s.gate := by
  unfold leave
  dsimp only
  split <;> rfl

theorem changes_silent {s' : Session} {w' : Worker} (h : s.workers[i]? = some w)
    (hw : s'.workers = s.workers.set i w') (he : s'.errors = s.errors)
    (hc : s'.clock = s.clock) : Changes s s' i w w' [] :=
  ⟨h, hw, by simp [he], hc⟩

theorem Proceeds.changes {s' : Session} (h : s.workers[i]? = some w)
    (hs : Proceeds setup s i w s') :
    ∃ w' errors, Changes s s' i w w' errors ∧ w.Steps setup s.clock w' errors := by
  cases hs with
  | start hp => exact ⟨_, [], changes_silent h rfl rfl rfl, .start hp⟩
  | call hp => exact ⟨_, [], changes_silent h rfl rfl rfl, .call hp⟩
  | hangUp hp hr => exact ⟨_, [], changes_silent h rfl rfl rfl, .hangUp hp hr⟩
  | @digest result hp =>
    unfold Session.digest
    dsimp only
    cases ho : result.outcome setup.timeout w.query.text with
    | succeeded results =>
      exact ⟨_, [], changes_silent h rfl rfl rfl, .succeed hp ho⟩
    | failed error => exact ⟨_, [error], ⟨h, rfl, rfl, rfl⟩, .fail hp ho⟩
    | lost query => exact ⟨_, [], changes_silent h rfl rfl rfl, .die hp ho⟩
  | publish hp => exact ⟨_, [], changes_silent h rfl rfl rfl, .publish hp⟩
  | leave hp =>
    unfold Session.leave
    dsimp only
    split
    · rename_i hs
      exact ⟨_, [w.loss], ⟨h, rfl, rfl, rfl⟩, .lose hp hs⟩
    · rename_i hs
      exact ⟨_, [], changes_silent h rfl rfl rfl, .leave hp (by simpa using hs)⟩
  | close hp => exact ⟨_, [], changes_silent h rfl rfl rfl, .close hp⟩

theorem proceed_changes (setup : Setup) (s : Session) (i : Nat) :
    (s.proceed setup i = s ∧ ∀ w, s.workers[i]? = some w → w.Resting) ∨
      ∃ w w' errors, Changes s (s.proceed setup i) i w w' errors ∧
        w.Steps setup s.clock w' errors := by
  rcases proceed_cases setup s i with he | ⟨w, hw, hs⟩
  · exact .inl he
  · obtain ⟨w', errors, hc, hstep⟩ := hs.changes hw
    exact .inr ⟨w, w', errors, hc, hstep⟩

theorem Interrupts.changes {s' : Session} (h : s.workers[i]? = some w) (hs : Interrupts s i w s') :
    ∃ w', Changes s s' i w w' [] ∧ w.Interrupted w' := by
  cases hs with
  | created hp => exact ⟨_, changes_silent h rfl rfl rfl, .created hp⟩
  | waiting hp => exact ⟨_, changes_silent h rfl rfl rfl, .waiting hp⟩
  | calling hp => exact ⟨_, changes_silent h rfl rfl rfl, .calling hp⟩

theorem interrupt_changes (s : Session) (i : Nat) :
    (s.interrupt i = s ∧
      ∀ w, s.workers[i]? = some w → w.Resting → w.phase.remaining ≤ 2) ∨
      ∃ w w', Changes s (s.interrupt i) i w w' [] ∧ w.Interrupted w' := by
  rcases interrupt_cases s i with he | ⟨w, hw, hs⟩
  · exact .inl he
  · obtain ⟨w', hc, hstep⟩ := hs.changes hw
    exact .inr ⟨w, w', hc, hstep⟩

end Session

end MetricBatch
