import MetricBatch.Gate.Resize
import MetricBatch.Session.Worker

namespace MetricBatch

/-- What a session talks to. -/
structure Setup where
  /-- The client's name. -/
  name : String
  /-- The URL of a path of the backend. -/
  url : String → Url
  timeout : Span
  backend : Backend.Request → Reply

namespace Setup

/-- How many milliseconds a call may take. -/
def limit (setup : Setup) : Nat := setup.timeout.millisRoundedUp

/-- What the backend does with the call for a query. -/
def reply (setup : Setup) (query : Query) : Reply := setup.backend (query.request setup.url)

end Setup

/-- Who waits at the gate: a worker, by its place in the order of submission, or a change of the
capacity. -/
inductive Party where
  | worker (index : Nat)
  | resize (id : Nat)
  deriving DecidableEq, Repr

/-- Queries that run at the same time, each with a worker of its own, behind one gate and with one
log of errors. -/
structure Session where
  /-- Milliseconds since the start. -/
  clock : Nat
  gate : Gate Party
  errors : ErrorLog
  /-- In the order of submission. -/
  workers : List Worker
  /-- Every call made to the backend, with the worker that made it. -/
  calls : List (Nat × Backend.Request)
  /-- The most calls that were under way at the same time. -/
  peakCalls : Nat
  nextResize : Nat
  events : List Event

namespace Session

def new (setup : Setup) (maxConcurrency : Nat) : Session :=
  let gate := Gate.new maxConcurrency
  { clock := 0, gate, errors := .empty, workers := [], calls := [], peakCalls := 0, nextResize := 0
    events := [.created setup.name gate.capacity setup.timeout] }

def requests (s : Session) : List Backend.Request := s.calls.map (·.2)

def note (s : Session) (events : List Event) : Session := { s with events := s.events ++ events }

def setWorker (s : Session) (i : Nat) (w : Worker) : Session :=
  { s with workers := s.workers.set i w }

def callsInFlight (s : Session) : Nat := s.workers.countP Worker.isCalling

/-- Workers that have not finished. -/
def unfinished (s : Session) : Nat := s.workers.countP (! ·.isEnded)

/-- A new query, whose worker has not run yet. -/
def spawn (s : Session) (query : Query) : Session :=
  { s with workers := s.workers ++ [.new query] }

/-- A worker asks for its permit. -/
def start (s : Session) (i : Nat) (w : Worker) : Session :=
  ({ s with gate := s.gate.request (.worker i) 1 }.setWorker i { w with phase := .waiting }).note
    [.awaiting w.query.text]

/-- A worker reports an error. -/
def report (s : Session) (i : Nat) (w : Worker) (error : QueryError) : Session :=
  ({ s with errors := s.errors.report (some error) }.setWorker i
    { w with reported := w.reported ++ [error] }).note [.failed error]

variable (setup : Setup)

/-- A worker takes its permit and makes its call. -/
def call (s : Session) (i : Nat) (w : Worker) : Session :=
  let request := w.query.request setup.url
  let s := { s with gate := s.gate.take (.worker i), calls := s.calls ++ [(i, request)] }
  let s := s.setWorker i { w with phase := .calling s.clock (setup.backend request), permit := true }
  { s with peakCalls := max s.peakCalls s.callsInFlight }.note
    [.sending w.query.text request.url]

/-- The call of a worker is over, and its permit goes back. -/
def hangUp (s : Session) (i : Nat) (w : Worker) (result : CallEnd) : Session :=
  ({ s with gate := s.gate.release }.setWorker i
    { w with phase := .digesting result, permit := false }).note [.released]

/-- A worker looks at how its call ended. -/
def digest (s : Session) (i : Nat) (w : Worker) (result : CallEnd) : Session :=
  let query := w.query.text
  let s := s.note (result.bodyEvents query)
  match result.outcome setup.timeout query with
  | .succeeded results =>
    (s.setWorker i { w with phase := .publishing results }).note
      [.parsed query results.series.length]
  | .failed error => s.report i { w with phase := .publishing (.placeholder query) } error
  | .lost _ => s.setWorker i { w with phase := .leaving }

def publish (s : Session) (i : Nat) (w : Worker) (results : QueryResults) : Session :=
  let unwanted := if w.sender && !w.wanted then [Event.unwanted w.query.text] else []
  (s.setWorker i { w.publish results with phase := .leaving }).note unwanted

/-- A worker that leaves without having sent results reports its loss. -/
def leave (s : Session) (i : Nat) (w : Worker) : Session :=
  let w' := { w with phase := .closing }
  if w.sender then s.report i w' w.loss else s.setWorker i w'

def close (s : Session) (i : Nat) (w : Worker) : Session :=
  s.setWorker i { w with phase := .ended, sender := false }

/-- A worker takes its next step, if it can take one now. -/
def proceed (s : Session) (i : Nat) : Session :=
  match s.workers[i]? with
  | none => s
  | some w =>
    match w.phase with
    | .created => s.start i w
    | .waiting => if s.gate.isGranted (.worker i) then s.call setup i w else s
    | .calling since reply =>
      match reply.poll setup.limit (s.clock - since) with
      | some result => s.hangUp i w result
      | none => s
    | .digesting result => s.digest setup i w result
    | .publishing results => s.publish i w results
    | .leaving => s.leave i w
    | .closing => s.close i w
    | .ended => s

def proceedIn : (turns : Nat) → Session → Nat → Session
  | 0, s, _ => s
  | turns + 1, s, i => proceedIn turns (s.proceed setup i) i

/-- Runs a worker until it has to wait. There are seven steps from its start to its end. -/
def poll (s : Session) (i : Nat) : Session := proceedIn setup 7 s i

/-- Takes a worker out of what it waits for. -/
def interrupt (s : Session) (i : Nat) : Session :=
  match s.workers[i]? with
  | none => s
  | some w =>
    match w.phase with
    | .created => s.setWorker i { w with phase := .leaving }
    | .waiting =>
      { s with gate := s.gate.withdraw (.worker i) }.setWorker i { w with phase := .leaving }
    | .calling _ _ =>
      ({ s with gate := s.gate.release }.setWorker i
        { w with phase := .leaving, permit := false }).note [.released]
    | _ => s

/-- The last steps of a worker. -/
def unwind (s : Session) (i : Nat) : Session :=
  match s.workers[i]? with
  | none => s
  | some w =>
    match w.phase with
    | .leaving => s.leave i w
    | .closing => s.close i w
    | _ => s

/-- A worker is taken away, if it has not finished. -/
def dropTask (s : Session) (i : Nat) : Session := ((s.interrupt i).unwind i).unwind i

/-- Takes all workers away. The session itself goes on. -/
def shutDown (s : Session) : Session := (List.range s.workers.length).foldl dropTask s

/-- The first worker that has been granted its permit and has not run since. -/
def granted? (s : Session) : Option Nat :=
  s.gate.granted.findSome? fun x =>
    match x.call with
    | .worker i => some i
    | .resize _ => none

/-- Runs workers that have been granted their permits. Each turn takes one call out of the gate. -/
def settleIn : (turns : Nat) → Session → Session
  | 0, s => s
  | turns + 1, s =>
    match s.granted? with
    | none => s
    | some i => settleIn turns (s.poll setup i)

/-- Runs all workers that can run at this time. -/
def settle (s : Session) : Session := settleIn setup s.gate.waiting s

/-- Adds a query, whose worker runs at once. -/
def submit (s : Session) (query : Query) : Session :=
  ((s.spawn query).poll setup s.workers.length).settle setup

def submitAll (s : Session) (queries : List Query) : Session := queries.foldl (submit setup) s

/-- The text of a session. -/
def text (s : Session) : String :=
  "QueryContext \x7b client: " ++ Text.quoted setup.name ++ ", gate: " ++ s.gate.stats.gateText
    ++ ", errors: " ++ toString s.errors.size ++ ", request_timeout: " ++ setup.timeout.text
    ++ " \x7d"

end Session

end MetricBatch
