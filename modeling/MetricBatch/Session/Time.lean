import MetricBatch.Session.Basic

namespace MetricBatch.Session

variable (setup : Setup)

/-- Whether a worker can take a step now. -/
def isReady (s : Session) (i : Nat) (w : Worker) : Bool :=
  match w.phase with
  | .waiting => s.gate.isGranted (.worker i)
  | .calling since reply => (reply.poll setup.limit (s.clock - since)).isSome
  | .ended => false
  | _ => true

def isQuiet (s : Session) : Bool := s.workers.zipIdx.all fun (w, i) => !s.isReady setup i w

/-- When the next call ends. -/
def nextEnd? (s : Session) : Option Nat := (s.workers.filterMap (Worker.ends? setup.limit)).min?

/-- Time passes, if no worker can run and no call ends before that. -/
def pass (s : Session) (millis : Nat) : Session :=
  if s.isQuiet setup && (s.nextEnd? setup).all (s.clock + millis ≤ ·) then
    { s with clock := s.clock + millis }
  else s

/-- Runs the workers whose calls have ended. -/
def finishDue (s : Session) : Session :=
  s.workers.zipIdx.foldl (fun s (w, i) => if w.isCalling then s.poll setup i else s) s

/-- Moves time to a point at which calls end. These are finished first, and then the workers run
that were granted their permits. -/
def moveTo (s : Session) (time : Nat) : Session :=
  ((s.pass setup (time - s.clock)).finishDue setup).settle setup

/-- Moves time on to a target, at most so many calls' ends. -/
def advanceIn (target : Nat) : (turns : Nat) → Session → Session
  | 0, s => s.pass setup (target - s.clock)
  | turns + 1, s =>
    match s.nextEnd? setup with
    | none => s.pass setup (target - s.clock)
    | some time =>
      if time ≤ target then advanceIn target turns (s.moveTo setup time)
      else s.pass setup (target - s.clock)

/-- Lets so many milliseconds pass. -/
def advance (s : Session) (millis : Nat) : Session :=
  advanceIn setup (s.clock + millis) s.unfinished s

def waitIn (ready : Session → Bool) : (turns : Nat) → Session → Session
  | 0, s => s
  | turns + 1, s =>
    if ready s then s
    else
      match s.nextEnd? setup with
      | none => s
      | some time => waitIn ready turns (s.moveTo setup time)

/-- Lets time pass until something holds, or until nothing can happen any more. -/
def wait (s : Session) (ready : Session → Bool) : Session := waitIn setup ready s.unfinished s

def isReadable (s : Session) (i : Nat) : Bool := (s.workers[i]?).any (·.results?.isSome)

/-- The results that can still be read. -/
def wantedIndices (s : Session) : List Nat :=
  (s.workers.zipIdx.filter (·.1.wanted)).map (·.2)

def discard (s : Session) (i : Nat) : Session :=
  { s with workers := s.workers.modify i fun w => { w with wanted := false } }

/-- Takes the results of a worker, if they can be read now. -/
def take (s : Session) (i : Nat) : Session × Option QueryResults :=
  match s.workers[i]? with
  | none => (s, none)
  | some w =>
    match w.readable? with
    | none => (s, none)
    | some results =>
      let abandoned := if w.published.isEmpty then [Event.abandoned w.query.text] else []
      ((s.discard i).note abandoned, some results)

/-- Waits for the results of a query; they can be read once. -/
def read (s : Session) (i : Nat) : Session × Option QueryResults :=
  if (s.workers[i]?).any (·.wanted) then (s.wait setup (·.isReadable i)).take i else (s, none)

/-- Waits for all results that can still be read, in the order of submission. -/
def readAll (s : Session) : Session × List QueryResults :=
  let indices := s.wantedIndices
  let s := s.wait setup fun s => indices.all s.isReadable
  indices.foldl (fun (s, all) i =>
    let (s, results) := s.take i
    (s, all ++ results.toList)) (s, [])

/-- Gives up the results of a query; whether they could still be read. -/
def drop (s : Session) (i : Nat) : Session × Bool :=
  if (s.workers[i]?).any (·.wanted) then (s.discard i, true) else (s, false)

/-- A change of the capacity begins to wait for its turn, if the capacity is a possible one. -/
def startResize (s : Session) (target : Nat) : Session :=
  if Gate.isValidCapacity target then
    { s with
      gate := s.gate.startResize (.resize s.nextResize) target
      nextResize := s.nextResize + 1 }
  else s

/-- A change of the capacity runs on. -/
def pollResize (s : Session) (id : Nat) : Session × Gate.ResizeProgress :=
  let (gate, progress) := s.gate.advanceResize (.resize id)
  let changes :=
    match progress with
    | .changed old => [Event.capacityChanged old gate.capacity]
    | _ => []
  ({ s with gate }.note changes, progress)

/-- A change of the capacity is given up. -/
def dropResize (s : Session) (id : Nat) : Session :=
  { s with gate := s.gate.cancel (.resize id) }

/-- Waits until the capacity is changed; whether it has been. The change stays pending if it waits
for what cannot happen. -/
def resizeIn (id target : Nat) : (turns : Nat) → Session → Session × Except GateError Bool
  | 0, s => (s, .ok false)
  | turns + 1, s =>
    match s.pollResize id with
    | (s, .changed _) => (s.settle setup, .ok true)
    | (s, .refused) => (s, .error (.invalidCapacity target))
    | (s, .pending) =>
      match s.nextEnd? setup with
      | none => (s, .ok false)
      | some time => resizeIn id target turns (s.moveTo setup time)

/-- Changes how many calls may be under way; whether that is done. Fewer are allowed only when
enough calls are over. -/
def setMaxConcurrency (s : Session) (target : Nat) : Session × Except GateError Bool :=
  if Gate.isValidCapacity target then
    resizeIn setup s.nextResize target (s.unfinished + 1) (s.startResize target)
  else (s, .error (.invalidCapacity target))

end MetricBatch.Session
