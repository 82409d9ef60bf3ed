import MetricBatch.Proofs.Session.Accounting
import MetricBatch.Proofs.Session.Admission
import MetricBatch.Proofs.Session.Forewarning
import MetricBatch.Session.Lifecycle

namespace MetricBatch

theorem begins_append {s t : String} (h : ∃ rest, t = s ++ rest) (more : String) :
    ∃ rest, t ++ more = s ++ rest := by
  obtain ⟨rest, rfl⟩ := h
  exact ⟨rest ++ more, String.append_assoc ..⟩

/-- A message begins with its title. -/
theorem Event.message_title (e : Event) : ∃ rest, e.message = e.title ++ rest := by
  have hquery (title : String) : ∃ rest, title ++ " query=" = title ++ rest := ⟨_, rfl⟩
  have hthree {s t : String} (h : ∃ rest, t = s ++ rest) (a b c : String) :
      ∃ rest, t ++ a ++ b ++ c = s ++ rest :=
    begins_append (begins_append (begins_append h a) b) c
  cases e with
  | created =>
    have hclient : ∃ rest, "Query context created client=" = "Query context created" ++ rest :=
      ⟨" client=", rfl⟩
    exact begins_append (hthree hclient _ _ _) _
  | capacityChanged =>
    have hfrom : ∃ rest, "Admission gate capacity changed from=" =
        "Admission gate capacity changed" ++ rest := ⟨" from=", rfl⟩
    exact hthree hfrom _ _ _
  | awaiting => exact begins_append (hquery "Awaiting admission permit") _
  | sending => exact hthree (hquery "Sending query") _ _ _
  | released => exact ⟨"", rfl⟩
  | decoding => exact hthree (hquery "Decoding response") _ _ _
  | warning => exact hthree (hquery "Backend warning for query") _ _ _
  | parsed => exact hthree (hquery "Query parsed") _ _ _
  | failed => exact begins_append (begins_append (hthree (hquery "Query failed") _ _ _) _) _
  | unwanted => exact begins_append (hquery "Result receiver dropped before publish") _
  | abandoned => exact begins_append (hquery "Query worker exited without publishing results") _

variable {title query : String} {events told : List Event}

theorem titled_append (title : String) (events told : List Event) :
    titled title (events ++ told) = titled title events + titled title told :=
  List.countP_append

@[simp] theorem titled_nil (title : String) : titled title [] = 0 := rfl

@[simp] theorem titled_cons (title : String) (e : Event) (events : List Event) :
    titled title (e :: events) = titled title events + if e.title == title then 1 else 0 :=
  List.countP_cons

/-- A log that keeps all levels keeps all events. -/
theorem Session.logged_eq (s : Session) (title : String) :
    s.logged title = titled title s.events := by
  have hall : s.events.filter (Level.trace.keeps ·.level) = s.events := by
    apply List.filter_eq_self.mpr
    intro e _
    cases e <;> rfl
  rw [logged, hall]

/-- There is an event for each report. -/
theorem titled_failed (events : List Event) :
    titled "Query failed" events = (events.filterMap Event.failure?).length := by
  induction events with
  | nil => rfl
  | cons e rest ih => cases e <;> simp [List.filterMap_cons, Event.title, Event.failure?, ih]

theorem titled_warnings (h : title ≠ "Backend warning for query") (query : String)
    (texts : List String) (events : List Event) :
    titled title (texts.map (Event.warning query) ++ events) = titled title events := by
  rw [titled_append, Nat.add_eq_right, titled, List.countP_eq_zero]
  intro e he
  obtain ⟨text, _, rfl⟩ := List.mem_map.mp he
  simpa [Event.title] using h.symm

theorem failures_decoded (query : String) (size : Nat) (texts : List String) (last : Event) :
    (.decoding query size :: texts.map (Event.warning query) ++ [last]).filterMap Event.failure? =
      last.failure?.toList := by
  have hwarnings : (texts.map (Event.warning query)).filterMap Event.failure? = [] := by
    rw [List.filterMap_eq_nil_iff]
    intro e he
    obtain ⟨text, _, rfl⟩ := List.mem_map.mp he
    rfl
  rw [List.cons_append, List.filterMap_cons_none rfl, List.filterMap_append, hwarnings,
    List.nil_append]
  cases last <;> rfl

/-- An event that no worker logs. -/
def Event.IsAside : Event → Prop
  | .capacityChanged .. | .abandoned _ => True
  | _ => False

theorem Event.IsAside.failure? {e : Event} (h : e.IsAside) : e.failure? = none := by
  cases e <;> first | rfl | cases h

theorem titled_asides (h : ∀ e ∈ told, e.IsAside)
    (ht : title ∉ ["Admission gate capacity changed",
      "Query worker exited without publishing results"]) : titled title told = 0 := by
  rw [titled, List.countP_eq_zero]
  intro e he
  have haside := h e he
  cases e with
  | capacityChanged | abandoned =>
    intro htitle
    simp [← eq_of_beq htitle, Event.title] at ht
  | created | awaiting | sending | released | decoding | warning | parsed | failed | unwanted =>
    cases haside

/-- An answer is decoded just if results come of it, or an error of decoding or parsing. -/
theorem CallEnd.bodyEvents_cases (result : CallEnd) (timeout : Span) (query : String) :
    (∃ (size : Nat) (texts : List String),
      result.bodyEvents query = .decoding query size :: texts.map (Event.warning query) ∧
      ((∃ results, result.outcome timeout query = .succeeded results) ∨
        (∃ detail, result.outcome timeout query = .failed (.decode query detail)) ∨
        ∃ source, result.outcome timeout query = .failed (.response query source))) ∨
    result.bodyEvents query = [] ∧
      ((∃ status detail, result.outcome timeout query = .failed (.transport query status detail)) ∨
        result.outcome timeout query = .lost query) := by
  cases result with
  | timedOut => exact .inr ⟨rfl, .inl ⟨_, _, rfl⟩⟩
  | crashed => exact .inr ⟨rfl, .inr rfl⟩
  | answered answer =>
    cases answer with
    | error e => exact .inr ⟨rfl, .inl ⟨_, _, rfl⟩⟩
    | ok response =>
      cases hs : Backend.isSuccess response.status with
      | false =>
        refine .inr ⟨by simp [bodyEvents, hs], .inl ?_⟩
        simp only [outcome, Outcome.ofResponse, hs, Bool.false_eq_true, ↓reduceIte]
        exact ⟨_, _, rfl⟩
      | true =>
        refine .inl ⟨response.body.length, warnings response.body, by simp [bodyEvents, hs], ?_⟩
        simp only [outcome, Outcome.ofResponse, hs, ↓reduceIte, Outcome.ofBody]
        cases Json.read response.body with
        | error e => exact .inr (.inl ⟨_, rfl⟩)
        | ok v =>
          dsimp only
          cases QueryResults.ofResponse query v with
          | error e => exact .inr (.inr ⟨_, rfl⟩)
          | ok results => exact .inl ⟨_, rfl⟩

theorem CallEnd.bodyEvents_sending (result : CallEnd) (query : String) :
    titled "Sending query" (result.bodyEvents query) = 0 := by
  rcases result.bodyEvents_cases (.ofMillis 0) query with ⟨size, texts, hbody, _⟩ | ⟨hbody, _⟩
  · have hne : "Sending query" ≠ "Backend warning for query" := by decide
    have hwarnings := titled_warnings hne query texts []
    rw [List.append_nil] at hwarnings
    simp [hbody, hwarnings, Event.title]
  · rw [hbody, titled_nil]

namespace Worker

variable {setup : Setup} {clock : Nat} {w w' : Worker} {errors : List QueryError}

/-- What has come out of a worker in each phase, whenever its steps are taken: nothing until its
call is looked at, then at most one report, and results are sent once. -/
structure Orderly (w : Worker) : Prop where
  unsent : w.sender = true → w.published = []
  sender : 3 ≤ w.phase.remaining → w.sender = true
  quiet : 4 ≤ w.phase.remaining → w.reported = []
  publishing : ∀ results, w.phase = .publishing results → results.kind.isSome = true →
    results.query = w.query.text ∧ w.reported = []
  sent : ∀ results ∈ w.published, w.published = [results] ∧ w.sender = false ∧
    (results.kind.isSome = true → results.query = w.query.text ∧ w.reported = [])

theorem orderly_new (query : Query) : (new query).Orderly :=
  ⟨fun _ => rfl, fun _ => rfl, fun _ => rfl, by simp [new], by simp [new]⟩

theorem Orderly.published_nil (h : w.Orderly) (hp : 3 ≤ w.phase.remaining) : w.published = [] :=
  h.unsent (h.sender hp)

/-- What a worker sends is what it had to send, and it has sent nothing before. -/
theorem Orderly.publish_eq (h : w.Orderly) {results : QueryResults}
    (hp : w.phase = .publishing results) :
    w.publish results = { w with sender := false, published := [results] } := by
  have hthree : 3 ≤ w.phase.remaining := by simp [hp, Phase.remaining]
  have hsender := h.sender hthree
  simp [Worker.publish, hsender, h.published_nil hthree]

/-- The worker goes on to a phase in which it sends nothing, and has reported nothing. -/
theorem Orderly.move (h : w.Orderly) (hp : 3 ≤ w.phase.remaining) (hsender : w'.sender = w.sender)
    (hpublished : w'.published = w.published) (hreported : w'.reported = w.reported)
    (hless : w'.phase.remaining ≤ w.phase.remaining)
    (hnew : ∀ results, w'.phase = .publishing results → results.kind.isSome = true →
      results.query = w'.query.text ∧ w'.reported = []) : w'.Orderly := by
  refine ⟨?_, ?_, ?_, hnew, ?_⟩
  · rw [hsender, hpublished]
    exact h.unsent
  · intro _
    rw [hsender]
    exact h.sender hp
  · intro hfour
    rw [hreported]
    exact h.quiet (by omega)
  · rw [hpublished, h.published_nil hp]
    simp

theorem Orderly.steps (h : w.Orderly) (hs : w.Steps setup clock w' errors) : w'.Orderly := by
  cases hs with
  | start hp | call hp | hangUp hp | die hp =>
    have hfour : 4 ≤ w.phase.remaining := by simp [hp, Phase.remaining]
    exact h.move (by omega) rfl rfl rfl (by simp [hp, Phase.remaining]) (by simp)
  | @succeed result results hp ho =>
    have hfour : 4 ≤ w.phase.remaining := by simp [hp, Phase.remaining]
    refine h.move (by omega) rfl rfl rfl (by simp [hp, Phase.remaining]) ?_
    intro _ he _
    cases he
    exact ⟨((result.outcome_kind setup.timeout w.query.text).1 results ho).1, h.quiet hfour⟩
  | fail hp =>
    have hfour : 4 ≤ w.phase.remaining := by simp [hp, Phase.remaining]
    have hnone := h.published_nil (by omega)
    refine ⟨h.unsent, fun _ => h.sender (by omega), by simp [Phase.remaining], ?_, ?_⟩
    · intro _ he hsome
      cases he
      simp [QueryResults.placeholder] at hsome
    · simp [hnone]
  | publish hp =>
    rw [h.publish_eq hp]
    refine ⟨by simp, by simp [Phase.remaining], by simp [Phase.remaining], by simp, ?_⟩
    simpa using h.publishing _ hp
  | lose hp hs =>
    have hnone := h.unsent hs
    exact ⟨h.unsent, by simp [Phase.remaining], by simp [Phase.remaining], by simp,
      by simp [hnone]⟩
  | leave hp hs =>
    exact ⟨h.unsent, by simp [Phase.remaining], by simp [Phase.remaining], by simp, h.sent⟩
  | close hp =>
    refine ⟨by simp, by simp [Phase.remaining], by simp [Phase.remaining], by simp, ?_⟩
    intro results hm
    obtain ⟨hall, _, hkind⟩ := h.sent results hm
    exact ⟨hall, rfl, hkind⟩

theorem Interrupted.remaining_before (hs : w.Interrupted w') : 5 ≤ w.phase.remaining := by
  cases hs with
  | created hp | waiting hp | calling hp => simp [hp, Phase.remaining]

theorem Orderly.interrupted (h : w.Orderly) (hs : w.Interrupted w') : w'.Orderly := by
  have hbefore := hs.remaining_before
  have hafter := hs.remaining
  cases hs <;> exact h.move (by omega) rfl rfl rfl (by omega) (by simp)

theorem Orderly.unwanted (h : w.Orderly) : { w with wanted := false }.Orderly :=
  ⟨h.unsent, h.sender, h.quiet, h.publishing, h.sent⟩

/-- The events of a worker's next step. -/
def nextEvents (setup : Setup) (w : Worker) : List Event :=
  match w.phase with
  | .created => [.awaiting w.query.text]
  | .waiting => [.sending w.query.text (w.query.request setup.url).url]
  | .calling _ _ => [.released]
  | .digesting result =>
    result.bodyEvents w.query.text ++
      match result.outcome setup.timeout w.query.text with
      | .succeeded results => [.parsed w.query.text results.series.length]
      | .failed error => [.failed error]
      | .lost _ => []
  | .publishing _ => if w.sender && !w.wanted then [.unwanted w.query.text] else []
  | .leaving => if w.sender then [.failed w.loss] else []
  | .closing | .ended => []

/-- Whether a worker has got results of some kind. -/
def hasParsed (w : Worker) : Bool :=
  match w.phase with
  | .publishing results => results.kind.isSome
  | _ => w.published.any (·.kind.isSome)

/-- A worker's step and its events balance. -/
structure Logs (w w' : Worker) (errors : List QueryError) (told : List Event) : Prop where
  failures : told.filterMap Event.failure? = errors
  released : titled "Admission permit released" told + (if w'.isCalling then 1 else 0) =
    (if w.isCalling then 1 else 0) + titled "Sending query" told
  decoding : titled "Decoding response" told = titled "Query parsed" told +
    errors.countP (·.phase == "decode") + errors.countP (·.phase == "parse")
  parsed : titled "Query parsed" told + (if w.hasParsed then 1 else 0) =
    if w'.hasParsed then 1 else 0
  changes : titled "Admission gate capacity changed" told = 0

theorem nextEvents_succeeded {result : CallEnd} {results : QueryResults}
    (hp : w.phase = .digesting result)
    (ho : result.outcome setup.timeout w.query.text = .succeeded results) :
    ∃ (size : Nat) (texts : List String),
      w.nextEvents setup = .decoding w.query.text size ::
        texts.map (Event.warning w.query.text) ++
          [.parsed w.query.text results.series.length] := by
  rcases result.bodyEvents_cases setup.timeout w.query.text with
    ⟨size, texts, hbody, _⟩ | ⟨_, ⟨_, _, hfailed⟩ | hlost⟩
  · exact ⟨size, texts, by simp [nextEvents, hp, ho, hbody]⟩
  · simp [ho] at hfailed
  · simp [ho] at hlost

theorem nextEvents_failed {result : CallEnd} {error : QueryError}
    (hp : w.phase = .digesting result)
    (ho : result.outcome setup.timeout w.query.text = .failed error) :
    (∃ (size : Nat) (texts : List String),
      w.nextEvents setup = .decoding w.query.text size ::
        texts.map (Event.warning w.query.text) ++ [.failed error] ∧
      ((∃ detail, error = .decode w.query.text detail) ∨
        ∃ source, error = .response w.query.text source)) ∨
    w.nextEvents setup = [.failed error] ∧
      ∃ status detail, error = .transport w.query.text status detail := by
  rcases result.bodyEvents_cases setup.timeout w.query.text with
    ⟨size, texts, hbody, herror⟩ | ⟨hbody, ⟨status, detail, hfailed⟩ | hlost⟩
  · refine .inl ⟨size, texts, by simp [nextEvents, hp, ho, hbody], ?_⟩
    simpa [ho] using herror
  · rw [ho, Outcome.failed.injEq] at hfailed
    exact .inr ⟨by simp [nextEvents, hp, ho, hbody], status, detail, hfailed⟩
  · simp [ho] at hlost

theorem nextEvents_lost {result : CallEnd} {query : String} (hp : w.phase = .digesting result)
    (ho : result.outcome setup.timeout w.query.text = .lost query) :
    w.nextEvents setup = [] := by
  rcases result.bodyEvents_cases setup.timeout w.query.text with
    ⟨_, _, _, ⟨_, he⟩ | ⟨_, he⟩ | ⟨_, he⟩⟩ | ⟨hbody, _⟩
  · simp [ho] at he
  · simp [ho] at he
  · simp [ho] at he
  · simp [nextEvents, hp, ho, hbody]

theorem Steps.logs (hs : w.Steps setup clock w' errors) (h : w.Orderly) :
    w.Logs w' errors (w.nextEvents setup) := by
  cases hs with
  | start hp | call hp | hangUp hp | close hp =>
    constructor <;> simp [nextEvents, hp, hasParsed, isCalling, Event.title, Event.failure?]
  | leave hp hs =>
    constructor <;> simp [nextEvents, hp, hs, hasParsed, isCalling]
  | lose hp hs =>
    constructor <;>
      simp [nextEvents, hp, hs, hasParsed, isCalling, Event.title, Event.failure?, loss,
        QueryError.phase]
  | publish hp =>
    have hnext : w.nextEvents setup = [] ∨ w.nextEvents setup = [.unwanted w.query.text] := by
      simp only [nextEvents, hp]
      split <;> simp
    rw [h.publish_eq hp]
    rcases hnext with hnext | hnext
    all_goals
      rw [hnext]
      constructor
      all_goals simp [hp, hasParsed, isCalling, Event.title, Event.failure?]
  | @succeed result results hp ho =>
    have hnone := h.published_nil (by simp [hp, Phase.remaining])
    have hkind := ((result.outcome_kind setup.timeout w.query.text).1 results ho).2
    obtain ⟨size, texts, hnext⟩ := nextEvents_succeeded hp ho
    rw [hnext]
    refine ⟨failures_decoded _ _ _ _, ?_, ?_, ?_, ?_⟩
    all_goals simp [titled_warnings, hp, hasParsed, hnone, hkind, isCalling, Event.title]
  | fail hp ho =>
    have hnone := h.published_nil (by simp [hp, Phase.remaining])
    rcases nextEvents_failed hp ho with ⟨size, texts, hnext, he⟩ | ⟨hnext, _, _, rfl⟩
    · rw [hnext]
      refine ⟨failures_decoded _ _ _ _, ?_, ?_, ?_, ?_⟩
      · simp [titled_warnings, hp, isCalling, Event.title]
      · rcases he with ⟨_, rfl⟩ | ⟨_, rfl⟩
        all_goals simp [titled_warnings, Event.title, QueryError.phase]
      · simp [titled_warnings, hp, hasParsed, hnone, Event.title, QueryResults.placeholder]
      · simp [titled_warnings, Event.title]
    · rw [hnext]
      constructor
      all_goals
        simp [hp, hasParsed, hnone, isCalling, Event.title, Event.failure?, QueryError.phase,
          QueryResults.placeholder]
  | die hp ho =>
    have hnone := h.published_nil (by simp [hp, Phase.remaining])
    rw [nextEvents_lost hp ho]
    constructor <;> simp [hp, hasParsed, hnone, isCalling]

/-- A worker that is taken out of its call gives its permit back. -/
def lastEvents (w : Worker) : List Event := if w.isCalling then [.released] else []

theorem Interrupted.logs (hs : w.Interrupted w') (h : w.Orderly) : w.Logs w' [] w.lastEvents := by
  have hnone := h.published_nil (Nat.le_trans (by decide) hs.remaining_before)
  cases hs with
  | created hp | waiting hp | calling hp =>
    constructor <;>
      simp [lastEvents, hp, hasParsed, hnone, isCalling, Event.title, Event.failure?]

/-- Between two steps of its own, a worker has results of some kind just if it has succeeded. -/
theorem Orderly.hasParsed_iff (h : w.Orderly) (hr : w.Resting) :
    w.hasParsed = true ↔ w.Succeeded := by
  constructor
  · intro hparsed
    have hany : w.published.any (·.kind.isSome) = true := by
      unfold hasParsed at hparsed
      split at hparsed
      · rename_i results hp
        simp [Resting, hp] at hr
      · exact hparsed
    obtain ⟨results, hm, hkind⟩ := List.any_eq_true.mp hany
    obtain ⟨hall, _, hrest⟩ := h.sent results hm
    obtain ⟨hquery, hreported⟩ := hrest hkind
    exact ⟨results, hall, by simp [results?, hall], hquery, hkind, hreported⟩
  · rintro ⟨results, hall, _, _, hkind, _⟩
    unfold hasParsed
    split
    · rename_i hp
      simp [Resting, hp] at hr
    · simp [hall, hkind]

end Worker

namespace Session

variable {setup : Setup} {s s' : Session} {i : Nat} {w w' : Worker} {errors : List QueryError}

/-- What a worker's step does to all that is not its own. -/
structure Speaks (s s' : Session) (told : List Event) : Prop where
  events : s'.events = s.events ++ told
  calls : s'.calls.length = s.calls.length + titled "Sending query" told
  resizes : s'.gate.resizes = s.gate.resizes
  nextResize : s'.nextResize = s.nextResize

theorem Proceeds.speaks (hs : Proceeds setup s i w s') : Speaks s s' (w.nextEvents setup) := by
  cases hs with
  | start hp =>
    have hnext : w.nextEvents setup = [.awaiting w.query.text] := by simp [Worker.nextEvents, hp]
    rw [hnext]
    exact ⟨rfl, rfl, (Gate.request_frame _ _ _).1, rfl⟩
  | call hp =>
    have hnext : w.nextEvents setup = [.sending w.query.text (w.query.request setup.url).url] := by
      simp [Worker.nextEvents, hp]
    rw [hnext]
    exact ⟨rfl, by simp [Session.call, setWorker, note, Event.title], rfl, rfl⟩
  | hangUp hp =>
    have hnext : w.nextEvents setup = [.released] := by simp [Worker.nextEvents, hp]
    rw [hnext]
    exact ⟨rfl, rfl, rfl, rfl⟩
  | @digest result hp =>
    have hsending := result.bodyEvents_sending w.query.text
    unfold Session.digest Worker.nextEvents
    rw [hp]
    dsimp only
    cases result.outcome setup.timeout w.query.text with
    | succeeded results =>
      refine ⟨by simp [note, setWorker], ?_, rfl, rfl⟩
      simp [note, setWorker, titled_append, hsending, Event.title]
    | failed error =>
      refine ⟨by simp [note, report, setWorker], ?_, rfl, rfl⟩
      simp [note, report, setWorker, titled_append, hsending, Event.title]
    | lost query => exact ⟨by simp [note, setWorker], by simp [note, setWorker, hsending], rfl, rfl⟩
  | publish hp =>
    have hnext : w.nextEvents setup =
        if w.sender && !w.wanted then [.unwanted w.query.text] else [] := by
      simp [Worker.nextEvents, hp]
    rw [hnext]
    refine ⟨rfl, ?_, rfl, rfl⟩
    split <;> rfl
  | leave hp =>
    have hnext : w.nextEvents setup = if w.sender then [.failed w.loss] else [] := by
      simp [Worker.nextEvents, hp]
    rw [hnext]
    unfold Session.leave
    dsimp only
    split
    · exact ⟨rfl, rfl, rfl, rfl⟩
    · exact ⟨by simp [setWorker], rfl, rfl, rfl⟩
  | close hp =>
    have hnext : w.nextEvents setup = [] := by simp [Worker.nextEvents, hp]
    rw [hnext]
    exact ⟨by simp [Session.close, setWorker], rfl, rfl, rfl⟩

theorem proceed_speaks (setup : Setup) (s : Session) (i : Nat) :
    s.proceed setup i = s ∨
      ∃ w w' errors, Changes s (s.proceed setup i) i w w' errors ∧
        w.Steps setup s.clock w' errors ∧ Speaks s (s.proceed setup i) (w.nextEvents setup) := by
  rcases proceed_cases setup s i with ⟨he, _⟩ | ⟨w, hw, hs⟩
  · exact .inl he
  · obtain ⟨w', errors, hc, hstep⟩ := hs.changes hw
    exact .inr ⟨w, w', errors, hc, hstep, hs.speaks⟩

theorem Interrupts.speaks (hs : Interrupts s i w s') : Speaks s s' w.lastEvents := by
  cases hs with
  | created hp =>
    exact ⟨by simp [setWorker, Worker.lastEvents, Worker.isCalling, hp],
      by simp [setWorker, Worker.lastEvents, Worker.isCalling, hp], rfl, rfl⟩
  | waiting hp =>
    exact ⟨by simp [setWorker, Worker.lastEvents, Worker.isCalling, hp],
      by simp [setWorker, Worker.lastEvents, Worker.isCalling, hp], rfl, rfl⟩
  | calling hp =>
    have hlast : w.lastEvents = [.released] := by simp [Worker.lastEvents, Worker.isCalling, hp]
    rw [hlast]
    exact ⟨rfl, rfl, rfl, rfl⟩

theorem interrupt_speaks (s : Session) (i : Nat) :
    s.interrupt i = s ∨
      ∃ w w', Changes s (s.interrupt i) i w w' [] ∧ w.Interrupted w' ∧
        Speaks s (s.interrupt i) w.lastEvents := by
  rcases interrupt_cases s i with ⟨he, _⟩ | ⟨w, hw, hs⟩
  · exact .inl he
  · obtain ⟨w', hc, hstep⟩ := hs.changes hw
    exact .inr ⟨w, w', hc, hstep, hs.speaks⟩

/-- What the log of a session says, and what the session itself says. -/
structure Tallied (s : Session) : Prop where
  orderly : ∀ w ∈ s.workers, w.Orderly
  failures : s.events.filterMap Event.failure? = s.errors.entries
  sending : titled "Sending query" s.events = s.calls.length
  released : titled "Admission permit released" s.events + s.callsInFlight = s.calls.length
  decoding : titled "Decoding response" s.events = titled "Query parsed" s.events +
    s.errors.entries.countP (·.phase == "decode") + s.errors.entries.countP (·.phase == "parse")
  parsed : titled "Query parsed" s.events = s.workers.countP Worker.hasParsed

theorem tallied_new (setup : Setup) (maxConcurrency : Nat) :
    (new setup maxConcurrency).Tallied := by
  constructor <;>
    simp [new, Event.title, Event.failure?, ErrorLog.empty, callsInFlight]

theorem Tallied.step {told : List Event} (h : s.Tallied) (hc : Changes s s' i w w' errors)
    (hspeaks : Speaks s s' told) (hlogs : w.Logs w' errors told) (horderly : w'.Orderly) :
    s'.Tallied := by
  have hflight := callsInFlight_set s' hc.here hc.workers
  have hparsed := countP_set_lookup (p := Worker.hasParsed) (b := w') hc.here
  have hreleased := hlogs.released
  have hmore := hlogs.parsed
  have hdecoded := hlogs.decoding
  refine ⟨?_, ?_, ?_, ?_, ?_, ?_⟩
  · intro x hx
    rw [hc.workers] at hx
    rcases List.mem_or_eq_of_mem_set hx with hm | rfl
    · exact h.orderly x hm
    · exact horderly
  · rw [hspeaks.events, List.filterMap_append, h.failures, hlogs.failures, hc.entries]
  · rw [hspeaks.events, titled_append, h.sending, hspeaks.calls]
  · rw [hspeaks.events, titled_append, hspeaks.calls]
    have := h.released
    omega
  · rw [hspeaks.events, hc.entries]
    simp only [titled_append, List.countP_append]
    have := h.decoding
    omega
  · rw [hspeaks.events, titled_append, hc.workers]
    have := h.parsed
    omega

theorem Tallied.congr (h : s.Tallied) (hworkers : s'.workers = s.workers)
    (hevents : s'.events = s.events) (herrors : s'.errors = s.errors)
    (hcalls : s'.calls = s.calls) : s'.Tallied := by
  refine ⟨?_, ?_, ?_, ?_, ?_, ?_⟩
  · rw [hworkers]
    exact h.orderly
  · rw [hevents, herrors]
    exact h.failures
  · rw [hevents, hcalls]
    exact h.sending
  · rw [hevents, hcalls, callsInFlight, hworkers]
    exact h.released
  · rw [hevents, herrors]
    exact h.decoding
  · rw [hevents, hworkers]
    exact h.parsed

theorem Tallied.note (h : s.Tallied) {told : List Event} (ht : ∀ e ∈ told, e.IsAside) :
    (s.note told).Tallied := by
  have hnone : told.filterMap Event.failure? = [] :=
    List.filterMap_eq_nil_iff.mpr fun e he => (ht e he).failure?
  have hsame (title : String) (hn : title ∉ ["Admission gate capacity changed",
      "Query worker exited without publishing results"]) :
      titled title (s.note told).events = titled title s.events := by
    simp only [Session.note, titled_append, titled_asides ht hn, Nat.add_zero]
  refine ⟨h.orderly, ?_, ?_, ?_, ?_, ?_⟩
  · simp only [Session.note, List.filterMap_append, hnone, List.append_nil, h.failures]
  · rw [hsame _ (by decide)]
    exact h.sending
  · rw [hsame _ (by decide)]
    exact h.released
  · rw [hsame _ (by decide), hsame _ (by decide)]
    exact h.decoding
  · rw [hsame _ (by decide)]
    exact h.parsed

theorem Tallied.spawn (h : s.Tallied) (query : Query) : (s.spawn query).Tallied := by
  refine ⟨?_, h.failures, h.sending, ?_, h.decoding, ?_⟩
  · intro w hw
    rcases List.mem_append.mp hw with hm | hm
    · exact h.orderly w hm
    · rw [List.mem_singleton.mp hm]
      exact Worker.orderly_new query
  · have hnew : (s.spawn query).callsInFlight = s.callsInFlight := by
      simp [callsInFlight, Session.spawn, Worker.new, Worker.isCalling]
    rw [hnew]
    exact h.released
  · have hnew : (s.spawn query).workers.countP Worker.hasParsed =
        s.workers.countP Worker.hasParsed := by
      simp [Session.spawn, Worker.new, Worker.hasParsed]
    rw [hnew]
    exact h.parsed

/-- Giving results up changes no count of workers that does not look at it. -/
theorem countP_discard {p : Worker → Bool} (hp : ∀ w, p { w with wanted := false } = p w)
    (s : Session) (i : Nat) : (s.discard i).workers.countP p = s.workers.countP p := by
  have hsame := congrArg (List.countP id) (discard_map hp s i)
  simpa only [List.countP_map, Function.id_comp] using hsame

theorem Tallied.discard (h : s.Tallied) (i : Nat) : (s.discard i).Tallied := by
  refine ⟨?_, h.failures, h.sending, ?_, h.decoding, ?_⟩
  · intro w hw
    obtain ⟨j, hj⟩ := List.mem_iff_getElem?.mp hw
    obtain ⟨x, hx, he⟩ := discard_lookup hj
    have horderly := h.orderly x (List.mem_of_getElem? hx)
    rcases he with rfl | rfl
    · exact horderly
    · exact horderly.unwanted
  · have hreleased := h.released
    rwa [callsInFlight, ← countP_discard (fun _ => rfl) s i] at hreleased
  · rw [countP_discard (fun _ => rfl)]
    exact h.parsed

theorem Tallied.act {x : Watched} (h : x.session.Tallied) (action : Action) :
    (x.act setup action).session.Tallied := by
  cases action with
  | submit query => exact h.spawn query
  | proceed i =>
    simp only [Watched.act]
    rcases proceed_speaks setup x.session i with he | ⟨w, w', errors, hc, hstep, hspeaks⟩
    · rwa [he]
    · have horderly := h.orderly w (List.mem_of_getElem? hc.here)
      exact h.step hc hspeaks (hstep.logs horderly) (horderly.steps hstep)
  | interrupt i =>
    simp only [Watched.act]
    rcases interrupt_speaks x.session i with he | ⟨w, w', hc, hstep, hspeaks⟩
    · rwa [he]
    · have horderly := h.orderly w (List.mem_of_getElem? hc.here)
      exact h.step hc hspeaks (hstep.logs horderly) (horderly.interrupted hstep)
  | startResize target =>
    simp only [Watched.act, Session.startResize]
    split
    · exact h.congr rfl rfl rfl rfl
    · exact h
  | pollResize id =>
    have hgate : { x.session with gate := (x.session.gate.advanceResize (.resize id)).1 }.Tallied :=
      h.congr rfl rfl rfl rfl
    apply hgate.note
    intro e he
    split at he
    · rw [List.mem_singleton.mp he]
      trivial
    · cases he
  | dropResize id => exact h.congr rfl rfl rfl rfl
  | elapse millis => exact h.congr rfl rfl rfl rfl
  | read i =>
    rcases take_cases x.session i with he | ⟨w, results, events, _, _, _, hevents, he⟩
    · simp only [Watched.act, he]
      exact h
    · simp only [Watched.act, he]
      apply (h.discard i).note
      intro e hm
      rw [hevents e hm]
      trivial
  | discard i => exact h.discard i
  | readErrors => exact h

end Session

end MetricBatch
