import MetricBatch.Gate.Resize

namespace MetricBatch.Gate

inductive CallKind where
  | acquire
  /-- Gives up at the deadline, after so long a wait. -/
  | acquireUntil (deadline : Nat) (timeout : Span)
  | resize (target : Nat)
  deriving DecidableEq, Repr

structure PendingCall where
  id : Nat
  name : String
  kind : CallKind
  deriving DecidableEq, Repr

inductive Event where
  | acquired (name : String)
  | resized (name : String)
  | failed (name : String) (error : GateError)
  deriving DecidableEq, Repr

/-- Calls at a gate on a clock of milliseconds. A call runs when it is polled, and any call may be
polled or dropped at any time. -/
structure Calls where
  gate : Gate Nat
  clock : Nat
  nextId : Nat
  pending : List PendingCall
  /-- Under whose names permits are held, the oldest first. -/
  held : List String
  deriving DecidableEq, Repr

namespace Calls

def new (capacity : Nat) : Calls := ⟨.new capacity, 0, 0, [], []⟩

/-- A call that has been granted its permit takes it. -/
def takeIfGranted (s : Calls) (p : PendingCall) : Option Calls :=
  if s.gate.isGranted p.id then
    some { s with gate := s.gate.take p.id, held := s.held ++ [p.name] }
  else none

/-- Runs a call on. A permit that is there at the deadline is taken. -/
def poll (s : Calls) (p : PendingCall) : Calls × Option Event :=
  match p.kind with
  | .acquire =>
    match s.takeIfGranted p with
    | some s => (s, some (.acquired p.name))
    | none => (s, none)
  | .acquireUntil deadline timeout =>
    match s.takeIfGranted p with
    | some s => (s, some (.acquired p.name))
    | none =>
      if deadline ≤ s.clock then
        ({ s with gate := s.gate.cancel p.id }, some (.failed p.name (.timeout timeout)))
      else (s, none)
  | .resize target =>
    if isValidCapacity target then
      match s.gate.advanceResize p.id with
      | (gate, .pending) => ({ s with gate }, none)
      | (gate, .refused) => ({ s with gate }, some (.failed p.name (.invalidCapacity target)))
      | (gate, .changed _) => ({ s with gate }, some (.resized p.name))
    else (s, some (.failed p.name (.invalidCapacity target)))

/-- Runs a call on and drops it if it finishes. -/
def pollOne (s : Calls × List Event) (p : PendingCall) : Calls × List Event :=
  let (s, events) := s
  match s.poll p with
  | (s, none) => (s, events)
  | (s, some e) => ({ s with pending := s.pending.filter (·.id != p.id) }, events ++ [e])

def pollById (s : Calls) (id : Nat) : Calls :=
  match s.pending.find? (·.id == id) with
  | some p => (pollOne (s, []) p).1
  | none => s

def pass (s : Calls) : Calls × List Event := s.pending.foldl pollOne (s, [])

/-- Runs all calls until none finishes. Each turn but the last one finishes a call. -/
def settleIn : (turns : Nat) → Calls → Calls × List Event
  | 0, s => (s, [])
  | turns + 1, s =>
    let (s, events) := s.pass
    if events.isEmpty then (s, [])
    else
      let (s, more) := settleIn turns s
      (s, events ++ more)

def settle (s : Calls) : Calls × List Event := settleIn (s.pending.length + 1) s

def start (s : Calls) (name : String) (kind : CallKind) : Calls :=
  let gate :=
    match kind with
    | .acquire | .acquireUntil _ _ => s.gate.request s.nextId 1
    | .resize target =>
      if isValidCapacity target then s.gate.startResize s.nextId target else s.gate
  { s with gate, nextId := s.nextId + 1, pending := s.pending ++ [⟨s.nextId, name, kind⟩] }

/-- Starts a call that gives up after some time; a part of a millisecond counts as a whole one. -/
def startWithin (s : Calls) (name : String) (timeout : Span) : Calls :=
  s.start name (.acquireUntil (s.clock + timeout.millisRoundedUp) timeout)

/-- Drops a call, whatever it waits for. -/
def drop (s : Calls) (id : Nat) : Calls :=
  { s with gate := s.gate.cancel id, pending := s.pending.filter (·.id != id) }

def tryAcquire? (s : Calls) (name : String) : Option Calls :=
  s.gate.tryAcquire?.map fun gate => { s with gate, held := s.held ++ [name] }

/-- Gives back the oldest permit that is held under a name. -/
def release? (s : Calls) (name : String) : Option Calls :=
  if s.held.contains name then
    some { s with gate := s.gate.release, held := s.held.erase name }
  else none

/-- What can happen at a gate at one time, in any order. -/
inductive Move where
  | acquire (name : String)
  | acquireWithin (name : String) (timeout : Span)
  | resize (name : String) (target : Nat)
  | poll (id : Nat)
  | drop (id : Nat)
  | tryAcquire (name : String)
  | release (name : String)
  | advance (millis : Nat)
  deriving DecidableEq, Repr

/-- A move that names nothing that is there changes nothing. -/
def move (s : Calls) : Move → Calls
  | .acquire name => s.start name .acquire
  | .acquireWithin name timeout => s.startWithin name timeout
  | .resize name target => s.start name (.resize target)
  | .poll id => s.pollById id
  | .drop id => if s.pending.any (·.id == id) then s.drop id else s
  | .tryAcquire name => (s.tryAcquire? name).getD s
  | .release name => (s.release? name).getD s
  | .advance millis => { s with clock := s.clock + millis }

/-- A gate with so many permits after some moves. -/
def after (capacity : Nat) (moves : List Move) : Calls := moves.foldl move (.new capacity)

inductive Step where
  | acquire (name : String)
  | acquireWithin (name : String) (millis : Nat)
  | resize (name : String) (target : Nat)
  | tryAcquire (name : String)
  | release (name : String)
  | cancel (name : String)
  | advance (millis : Nat)
  /-- Only looks. -/
  | observe
  deriving DecidableEq, Repr

/-- What a step does before the calls run; whether it found what it names. -/
def act (s : Calls) : Step → Calls × Option Bool
  | .acquire name => (s.start name .acquire, none)
  | .acquireWithin name millis => (s.startWithin name (.ofMillis millis), none)
  | .resize name target => (s.start name (.resize target), none)
  | .tryAcquire name =>
    match s.tryAcquire? name with
    | some s => (s, some true)
    | none => (s, some false)
  | .release name =>
    match s.release? name with
    | some s => (s, some true)
    | none => (s, some false)
  | .cancel name =>
    match s.pending.find? (·.name == name) with
    | some p => (s.drop p.id, some true)
    | none => (s, some false)
  | .advance millis => ({ s with clock := s.clock + millis }, none)
  | .observe => (s, none)

/-- A step of a script. After it the calls that have not finished are polled in the order in which
they were started, again and again until none of them finishes. -/
def step (s : Calls) (a : Step) : Calls × Option Bool × List Event :=
  let (s, found) := s.act a
  let (s, events) := s.settle
  (s, found, events)

end Calls

end MetricBatch.Gate
