import MetricBatch.Session.Interleaving

namespace MetricBatch

namespace Event

/-- The words that all messages of this kind begin with. -/
def title : Event → String
  | .created .. => "Query context created"
  | .capacityChanged .. => "Admission gate capacity changed"
  | .awaiting _ => "Awaiting admission permit"
  | .sending .. => "Sending query"
  | .released => "Admission permit released"
  | .decoding .. => "Decoding response"
  | .warning .. => "Backend warning for query"
  | .parsed .. => "Query parsed"
  | .failed _ => "Query failed"
  | .unwanted _ => "Result receiver dropped before publish"
  | .abandoned _ => "Query worker exited without publishing results"

def query? : Event → Option String
  | .awaiting query | .sending query _ | .decoding query _ | .warning query _ | .parsed query _
  | .unwanted query | .abandoned query => some query
  | .failed error => some error.query
  | .created .. | .capacityChanged .. | .released => none

/-- The error that is reported with an event. -/
def failure? : Event → Option QueryError
  | .failed error => some error
  | _ => none

end Event

/-- How many events have a title. -/
def titled (title : String) (events : List Event) : Nat := events.countP (·.title == title)

/-- How often a log that keeps all levels has a title. -/
def Session.logged (s : Session) (title : String) : Nat :=
  titled title (s.events.filter (Level.trace.keeps ·.level))

/-- How far a worker has come, by the events that it has logged. -/
inductive Stage where
  | created
  | awaiting
  | inFlight
  /-- Its call is over. -/
  | answered
  | decoding
  | parsed
  /-- Its error was reported. -/
  | failed
  /-- Its results were sent to nobody; when somebody gets them, there is no event. -/
  | published
  deriving DecidableEq, Repr

namespace Stage

def rank : Stage → Nat
  | .created => 0
  | .awaiting => 1
  | .inFlight => 2
  | .answered => 3
  | .decoding => 4
  | .parsed | .failed => 5
  | .published => 6

/-- The stage that begins with an event. A warning begins none. -/
def of? : Event → Option Stage
  | .awaiting _ => some .awaiting
  | .sending .. => some .inFlight
  | .released => some .answered
  | .decoding .. => some .decoding
  | .parsed .. => some .parsed
  | .failed _ => some .failed
  | .unwanted _ => some .published
  | _ => none

/-- Where an event takes a worker, if it can log the event there. -/
def after? : Stage → Event → Option Stage
  | .created, .awaiting _ => some .awaiting
  | .awaiting, .sending .. => some .inFlight
  | .inFlight, .released => some .answered
  | .answered, .decoding .. => some .decoding
  | .decoding, .warning .. => some .decoding
  | .decoding, .parsed .. => some .parsed
  | .decoding, .failed (.decode ..) | .decoding, .failed (.response ..) => some .failed
  | .created, .failed (.transport ..) | .awaiting, .failed (.transport ..)
  | .answered, .failed (.transport ..) => some .failed
  | .parsed, .unwanted _ | .failed, .unwanted _ => some .published
  | _, _ => none

/-- The same for a worker with some query, which logs no other queries. -/
def next? (query : String) (stage : Stage) (event : Event) : Option Stage :=
  if event.query?.all (· == query) then stage.after? event else none

/-- Where a list of events takes a worker, if it can log them one after the other. -/
def follow? (query : String) (stage : Stage) (events : List Event) : Option Stage :=
  events.foldlM (next? query) stage

/-- The stage in which results are sent. -/
def ofResults (results : QueryResults) : Stage :=
  if results.kind.isSome then .parsed else .failed

/-- A stage for a worker that has nothing more to send. -/
def Closes (stage : Stage) (w : Worker) : Prop :=
  match w.published with
  | [] => stage = .failed
  | results :: _ => stage = ofResults results ∨ stage = .published

/-- A stage for a worker in its phase. -/
def Fits (stage : Stage) (w : Worker) : Prop :=
  match w.phase with
  | .created => stage = .created
  | .waiting => stage = .awaiting
  | .calling _ _ => stage = .inFlight
  | .digesting _ => stage = .answered
  | .publishing results => stage = ofResults results
  | .leaving =>
    if w.sender then stage = .created ∨ stage = .awaiting ∨ stage = .answered else stage.Closes w
  | .closing | .ended => stage.Closes w

end Stage

/-- Whether a worker has come to its end by itself and has sent its results. -/
def Worker.hasSent (w : Worker) : Bool := !w.published.isEmpty

namespace Session

/-- An action of a run, with the session before and after it. -/
structure Turn where
  before : Session
  action : Action
  after : Session

namespace Turn

/-- What is new in the log. -/
def events (t : Turn) : List Event := t.after.events.drop t.before.events.length

/-- The worker that takes a step or is taken away. -/
def worker? (t : Turn) : Option Nat :=
  match t.action with
  | .proceed i | .interrupt i => some i
  | _ => none

/-- The change of the capacity that is reported to be done. -/
def changed? (t : Turn) : Option Nat :=
  match t.action with
  | .pollResize id =>
    match (t.before.pollResize id).2 with
    | .changed _ => some id
    | _ => none
  | _ => none

/-- Whether the results of a worker are given up before they are sent. -/
def deserts (t : Turn) (i : Nat) : Bool :=
  match t.action with
  | .discard j => j == i && (t.before.workers[i]?).any (! ·.hasSent)
  | _ => false

end Turn

def turns (setup : Setup) : Watched → List Action → List Turn
  | _, [] => []
  | x, action :: rest =>
    ⟨x.session, action, (x.act setup action).session⟩ :: turns setup (x.act setup action) rest

/-- The events that a worker has logged in a run. -/
def ownEvents (run : List Turn) (i : Nat) : List Event :=
  (run.filter (·.worker? == some i)).flatMap Turn.events

/-- Whether a change of the capacity was done in a run. -/
def isChanged (run : List Turn) (id : Nat) : Bool := run.any (·.changed? == some id)

/-- Whether the results of a worker were given up in a run before they were sent. -/
def isDeserted (run : List Turn) (i : Nat) : Bool := run.any (·.deserts i)

end Session

end MetricBatch
