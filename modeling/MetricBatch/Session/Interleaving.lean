import MetricBatch.Session.Moves

namespace MetricBatch.Session

/-- The smallest things that can happen, in any order. The last steps of a worker are steps like any
other: it reports an error, it sends its results, and when it leaves without having sent any it
first reports its loss and then lets go of its sender. -/
inductive Action where
  | submit (query : Query)
  /-- A worker takes its next step. -/
  | proceed (worker : Nat)
  /-- A worker is taken out of what it waits for. -/
  | interrupt (worker : Nat)
  | startResize (target : Nat)
  | pollResize (id : Nat)
  | dropResize (id : Nat)
  | elapse (millis : Nat)
  /-- A reader gets the results of a worker, if they are there. -/
  | read (worker : Nat)
  /-- A reader gives up the results of a worker. -/
  | discard (worker : Nat)
  /-- A reader gets the errors that have been reported so far. -/
  | readErrors
  deriving DecidableEq

/-- What a reader has got. -/
inductive Sight where
  | results (worker : Nat) (results : QueryResults)
  | errors (entries : List QueryError)

/-- A session and what its readers have got, in order. -/
structure Watched where
  session : Session
  sights : List Sight

namespace Watched

variable (setup : Setup)

def act (x : Watched) : Action → Watched
  | .submit query => { x with session := x.session.spawn query }
  | .proceed i => { x with session := x.session.proceed setup i }
  | .interrupt i => { x with session := x.session.interrupt i }
  | .startResize target => { x with session := x.session.startResize target }
  | .pollResize id => { x with session := (x.session.pollResize id).1 }
  | .dropResize id => { x with session := x.session.dropResize id }
  | .elapse millis =>
    { x with session := { x.session with clock := x.session.clock + millis } }
  | .read i =>
    let (s, results) := x.session.take i
    ⟨s, x.sights ++ (results.map (Sight.results i)).toList⟩
  | .discard i => { x with session := x.session.discard i }
  | .readErrors => { x with sights := x.sights ++ [.errors x.session.errors.entries] }

/-- A session with so many permits after some actions. -/
def after (maxConcurrency : Nat) (actions : List Action) : Watched :=
  actions.foldl (act setup) ⟨.new setup maxConcurrency, []⟩

end Watched

/-- The results that readers have got, each with its worker. -/
def resultsIn (sights : List Sight) : List (Nat × QueryResults) :=
  sights.filterMap fun
    | .results i results => some (i, results)
    | .errors _ => none

end MetricBatch.Session
