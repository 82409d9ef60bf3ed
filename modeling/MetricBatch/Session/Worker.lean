import MetricBatch.Session.Outcome

namespace MetricBatch

/-- How far a worker is. It waits for its permit, makes one call, gives the permit back, looks at
the answer, sends the results and is gone. One that is taken away, or that dies of its call, goes
the same last way without having sent anything, and then its loss is reported. -/
inductive Phase where
  /-- It has not run yet. -/
  | created
  | waiting
  /-- Its call is under way since then, and the backend will reply so. -/
  | calling (since : Nat) (reply : Reply)
  /-- Its call is over, and nobody has looked at the answer. -/
  | digesting (result : CallEnd)
  /-- Its results are about to be sent. -/
  | publishing (results : QueryResults)
  /-- Its task is over; it is still to be seen whether results were sent. -/
  | leaving
  /-- The sender of its results is about to go. -/
  | closing
  | ended

structure Worker where
  query : Query
  phase : Phase
  /-- Whether it holds a permit. -/
  permit : Bool
  /-- Whether it can still send results; they are sent once. -/
  sender : Bool
  /-- What it has sent. -/
  published : List QueryResults
  /-- The errors that it has reported. -/
  reported : List QueryError
  /-- Whether somebody may still read the results. -/
  wanted : Bool

namespace Worker

def new (query : Query) : Worker :=
  { query, phase := .created, permit := false, sender := true, published := [], reported := []
    wanted := true }

def isCalling (w : Worker) : Bool :=
  match w.phase with
  | .calling _ _ => true
  | _ => false

def isEnded (w : Worker) : Bool :=
  match w.phase with
  | .ended => true
  | _ => false

/-- When the worker's call ends, if calls may take so many milliseconds. -/
def ends? (limit : Nat) (w : Worker) : Option Nat :=
  match w.phase with
  | .calling since reply => some (since + reply.duration limit)
  | _ => none

/-- The error of a worker that is gone without results. -/
def loss (w : Worker) : QueryError := .transport w.query.text none Event.goneText

/-- Sends results. -/
def publish (w : Worker) (results : QueryResults) : Worker :=
  if w.sender then { w with sender := false, published := w.published ++ [results] } else w

/-- What a reader gets, as soon as there is something to get: the results that were sent, or a
placeholder if none will be sent any more. -/
def results? (w : Worker) : Option QueryResults :=
  match w.published with
  | results :: _ => some results
  | [] => if w.sender then none else some (.placeholder w.query.text)

/-- Results can be read once. -/
def readable? (w : Worker) : Option QueryResults := if w.wanted then w.results? else none

end Worker

end MetricBatch
