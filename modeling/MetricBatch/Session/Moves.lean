import MetricBatch.Session.Time

namespace MetricBatch.Session

/-- Everything that can happen to a session between two looks at it: queries are submitted, workers
are polled or taken away in any order, changes of the capacity start, run on or are given up, time
passes, and results are read or given up. -/
inductive Move where
  | submit (query : Query)
  | poll (worker : Nat)
  | dropTask (worker : Nat)
  | startResize (target : Nat)
  | pollResize (id : Nat)
  | dropResize (id : Nat)
  | pass (millis : Nat)
  | take (worker : Nat)
  | discard (worker : Nat)
  deriving DecidableEq

variable (setup : Setup)

/-- A move that names nothing that is there changes nothing. -/
def move (s : Session) : Move → Session
  | .submit query => s.spawn query
  | .poll i => s.poll setup i
  | .dropTask i => s.dropTask i
  | .startResize target => s.startResize target
  | .pollResize id => (s.pollResize id).1
  | .dropResize id => s.dropResize id
  | .pass millis => s.pass setup millis
  | .take i => (s.take i).1
  | .discard i => s.discard i

/-- A session with so many permits after some moves. -/
def after (maxConcurrency : Nat) (moves : List Move) : Session :=
  moves.foldl (move setup) (.new setup maxConcurrency)

/-- The queries that were submitted, in their order. -/
def submitted (moves : List Move) : List Query :=
  moves.filterMap fun
    | .submit query => some query
    | _ => none

end MetricBatch.Session
