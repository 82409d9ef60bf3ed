import MetricBatch.Gate.Calls

namespace MetricBatch.Gate

/-- How a call ended. -/
inductive Ending where
  | returned (e : Event)
  | dropped
  deriving DecidableEq, Repr

/-- A call that is over. -/
structure Over where
  call : Nat
  ending : Ending
  deriving DecidableEq, Repr

def Over.event? (x : Over) : Option Event :=
  match x.ending with
  | .returned e => some e
  | .dropped => none

/-- Under which name the call took a permit, if it took one. -/
def Over.taken? (x : Over) : Option String :=
  match x.ending with
  | .returned (.acquired name) => some name
  | .returned (.resized _) | .returned (.failed _ _) | .dropped => none

namespace Calls

/-- Runs a call on and drops it if it finishes; says which one it was. -/
def pollOver (t : Calls × List Over) (p : PendingCall) : Calls × List Over :=
  let (s, log) := t
  match s.poll p with
  | (s, none) => (s, log)
  | (s, some e) =>
    ({ s with pending := s.pending.filter (·.id != p.id) }, log ++ [⟨p.id, .returned e⟩])

def passOver (s : Calls) : Calls × List Over := s.pending.foldl pollOver (s, [])

def settleOverIn : (turns : Nat) → Calls → Calls × List Over
  | 0, s => (s, [])
  | turns + 1, s =>
    let (s, log) := s.passOver
    if log.isEmpty then (s, [])
    else
      let (s, more) := settleOverIn turns s
      (s, log ++ more)

def settleOver (s : Calls) : Calls × List Over := settleOverIn (s.pending.length + 1) s

/-- The call that a move itself ends. -/
def ends (s : Calls) : Move → List Over
  | .poll id =>
    match s.pending.find? (·.id == id) with
    | some p => ((s.poll p).2.map fun e => ⟨p.id, .returned e⟩).toList
    | none => []
  | .drop id => if s.pending.any (·.id == id) then [⟨id, .dropped⟩] else []
  | .acquire _ | .acquireWithin _ _ | .resize _ _ | .tryAcquire _ | .release _ | .advance _ => []

/-- Moves, one after the other, and the calls that they end. -/
def record (s : Calls) : List Move → Calls × List Over
  | [] => (s, [])
  | m :: rest =>
    let (t, log) := (s.move m).record rest
    (t, s.ends m ++ log)

/-- A move, after which the calls run until none finishes. -/
def enact (s : Calls) (m : Move) : Calls × List Over :=
  let (t, log) := (s.move m).settleOver
  (t, s.ends m ++ log)

def enactAll (s : Calls) : List Move → Calls × List Over
  | [] => (s, [])
  | m :: rest =>
    let (t, log) := s.enact m
    let (u, more) := t.enactAll rest
    (u, log ++ more)

/-- What a script comes to after each of its steps, and which calls ended in the step. A step is one
move or more. -/
def trace (s : Calls) : List (List Move) → List (Calls × List Over)
  | [] => []
  | moves :: rest => s.enactAll moves :: (s.enactAll moves).1.trace rest

/-- What is told of the calls that ended: what they returned. -/
def told (t : Calls × List Over) : Calls × List Event := (t.1, t.2.filterMap Over.event?)

/-- The same for steps of scripts. -/
def stepTrace (s : Calls) : List Step → List (Calls × List Event)
  | [] => []
  | a :: rest => ((s.step a).1, (s.step a).2.2) :: (s.step a).1.stepTrace rest

/-- The move that a step makes. -/
def asMove (s : Calls) : Step → Move
  | .acquire name => .acquire name
  | .acquireWithin name millis => .acquireWithin name (.ofMillis millis)
  | .resize name target => .resize name target
  | .tryAcquire name => .tryAcquire name
  | .release name => .release name
  | .cancel name =>
    match s.pending.find? (·.name == name) with
    | some p => .drop p.id
    | none => .advance 0
  | .advance millis => .advance millis
  | .observe => .advance 0

def asMoves (s : Calls) : List Step → List Move
  | [] => []
  | a :: rest => s.asMove a :: (s.step a).1.asMoves rest

end Calls

/-- A call that gives up: when, and after how long a wait. -/
structure Limit where
  call : Nat
  name : String
  deadline : Nat
  timeout : Span
  deriving DecidableEq, Repr

/-- The call gives up. -/
def Limit.over (l : Limit) : Over := ⟨l.call, .returned (.failed l.name (.timeout l.timeout))⟩

def PendingCall.limit? (p : PendingCall) : Option Limit :=
  match p.kind with
  | .acquireUntil deadline timeout => some ⟨p.id, p.name, deadline, timeout⟩
  | .acquire | .resize _ => none

/-- The time of the call is over. -/
def PendingCall.isDue (p : PendingCall) (clock : Nat) : Bool := p.limit?.any (·.deadline ≤ clock)

/-- What the text of a script tells: the time, how many calls have been started, and which of them
have a limit that has not been reached. -/
structure Timetable where
  clock : Nat
  nextId : Nat
  limits : List Limit
  deriving DecidableEq, Repr

namespace Timetable

def start : Timetable := ⟨0, 0, []⟩

/-- The next move of the script. -/
def next (t : Timetable) : Calls.Move → Timetable
  | .acquire _ | .resize _ _ => { t with nextId := t.nextId + 1 }
  | .acquireWithin name timeout =>
    { t with
      nextId := t.nextId + 1
      limits := t.limits ++ [⟨t.nextId, name, t.clock + timeout.millisRoundedUp, timeout⟩] }
  | .advance millis => { t with clock := t.clock + millis }
  | .poll _ | .drop _ | .tryAcquire _ | .release _ => t

/-- The limits that are reached now. -/
def reached (t : Timetable) : List Limit := t.limits.filter (·.deadline ≤ t.clock)

/-- The limits that are left. -/
def pass (t : Timetable) : Timetable :=
  { t with limits := t.limits.filter (t.clock < ·.deadline) }

/-- The timetable at each move of a script, with the limits that are reached there. -/
def along (t : Timetable) : List Calls.Move → List Timetable
  | [] => []
  | m :: rest => t.next m :: (t.next m).pass.along rest

end Timetable

def PendingCall.untimed (p : PendingCall) : PendingCall :=
  match p.kind with
  | .acquireUntil _ _ => { p with kind := .acquire }
  | .acquire | .resize _ => p

/-- A call that gave up is one that was dropped. -/
def Over.untimed (x : Over) : Over :=
  match x.ending with
  | .returned (.failed _ (.timeout _)) => { x with ending := .dropped }
  | _ => x

namespace Calls

/-- The state in which no call has a limit. -/
def untimed (s : Calls) : Calls := { s with pending := s.pending.map PendingCall.untimed }

def Move.untimed : Move → Move
  | .acquireWithin name _ => .acquire name
  | m => m

end Calls

/-- A script without limits. After a move each call is dropped whose limit is reached with it, in
the order in which they were started. -/
def Timetable.untimed (t : Timetable) : List Calls.Move → List (List Calls.Move)
  | [] => []
  | m :: rest =>
    (m.untimed :: (t.next m).reached.map (.drop ·.call)) :: (t.next m).pass.untimed rest

end MetricBatch.Gate
