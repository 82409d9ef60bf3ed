import MetricBatch.Gate.Calls

namespace MetricBatch.Gate

variable {ι : Type} [DecidableEq ι]

/-- A change of the capacity collects permits. -/
def isCollecting (g : Gate ι) (call : ι) : Bool := g.resizes.any fun r => r.call == call && r.begun

/-- A change of the capacity begins to collect permits when it next runs. -/
def isAboutToShrink (g : Gate ι) (call : ι) : Bool :=
  match g.resizes with
  | [] => false
  | r :: _ =>
    r.call == call && !r.begun && decide (r.target < g.capacity)
      && decide (g.capacity - r.target ≤ maxSurplus)

/-- A call that is to get a permit. -/
def PendingCall.acquires (p : PendingCall) : Bool :=
  match p.kind with
  | .acquire | .acquireUntil _ _ => true
  | .resize _ => false

/-- Permits in two steps each way. The semaphore grants a permit, and only then is it counted as
held; a held permit is counted out, and only then is it back with the semaphore. In between other
calls run, and so do changes of the capacity. The calls that wait have a counter of their own here,
which each of them turns up when it begins to wait and down when it stops. -/
structure Threads where
  calls : Calls
  /-- Who has a permit from the semaphore that is not counted yet. -/
  admitting : List String
  /-- Whose permit is counted out and not back with the semaphore yet. -/
  returning : List String
  /-- The counter of the calls that wait. -/
  waiting : Nat
  /-- How many permits the semaphore has ever granted. -/
  grants : Nat
  deriving DecidableEq, Repr

namespace Threads

def new (capacity : Nat) : Threads := ⟨.new capacity, [], [], 0, 0⟩

/-- The permits that are out of the semaphore and not with a call that waits. -/
def out (s : Threads) : Nat := s.admitting.length + s.calls.held.length + s.returning.length

/-- A call has turned the counter of waiting calls up and not down again. -/
def waits (s : Threads) (p : PendingCall) : Bool :=
  p.acquires || s.calls.gate.isCollecting p.id

inductive Action where
  | acquire (name : String)
  | acquireWithin (name : String) (timeout : Span)
  | resize (name : String) (target : Nat)
  /-- A call that waits for a permit has it from the semaphore, and waits no more. -/
  | grant (id : Nat)
  /-- A permit that is available is had at once. -/
  | tryGrant (name : String)
  /-- The second step of acquiring. -/
  | count (name : String)
  /-- A change of the capacity runs on. -/
  | runResize (id : Nat)
  /-- A call is cancelled, or its time is over. -/
  | drop (id : Nat)
  /-- The first step of giving back. -/
  | uncount (name : String)
  | giveBack (name : String)
  | advance (millis : Nat)
  deriving DecidableEq, Repr

def start (s : Threads) (name : String) (kind : CallKind) : Threads :=
  { s with
    calls := s.calls.start name kind
    waiting := if PendingCall.acquires ⟨s.calls.nextId, name, kind⟩ then s.waiting + 1 else s.waiting }

def grant (s : Threads) (p : PendingCall) : Threads :=
  if p.acquires && s.calls.gate.isGranted p.id then
    { s with
      calls :=
        { s.calls with
          gate := s.calls.gate.remove p.id
          pending := s.calls.pending.filter (·.id != p.id) }
      admitting := s.admitting ++ [p.name]
      waiting := s.waiting - 1
      grants := s.grants + 1 }
  else s

def tryGrant (s : Threads) (name : String) : Threads :=
  if 0 < s.calls.gate.available then
    { s with
      calls.gate.available := s.calls.gate.available - 1
      admitting := s.admitting ++ [name]
      grants := s.grants + 1 }
  else s

def count (s : Threads) (name : String) : Threads :=
  if s.admitting.contains name then
    { s with
      calls := { s.calls with gate := s.calls.gate.countHeld, held := s.calls.held ++ [name] }
      admitting := s.admitting.erase name }
  else s

def runResize (s : Threads) (p : PendingCall) : Threads :=
  match p.kind with
  | .acquire | .acquireUntil _ _ => s
  | .resize target =>
    let gate := s.calls.gate
    let calls := (Calls.pollOne (s.calls, []) p).1
    if isValidCapacity target then
      let begins := gate.isAboutToShrink p.id
      let entered := if begins then s.waiting + 1 else s.waiting
      let finished := (gate.advanceResize p.id).2 != .pending
      let waiting := if finished && (begins || gate.isCollecting p.id) then entered - 1 else entered
      { s with calls, waiting }
    else { s with calls }

def drop (s : Threads) (p : PendingCall) : Threads :=
  { s with
    calls := s.calls.drop p.id
    waiting := if s.waits p then s.waiting - 1 else s.waiting }

def uncount (s : Threads) (name : String) : Threads :=
  if s.calls.held.contains name then
    { s with
      calls :=
        { s.calls with
          gate.inFlight := s.calls.gate.inFlight - 1
          held := s.calls.held.erase name }
      returning := s.returning ++ [name] }
  else s

def giveBack (s : Threads) (name : String) : Threads :=
  if s.returning.contains name then
    { s with
      calls.gate := s.calls.gate.addPermits 1
      returning := s.returning.erase name }
  else s

/-- An action on a call that is not there changes nothing. -/
def onCall (s : Threads) (id : Nat) (f : PendingCall → Threads) : Threads :=
  ((s.calls.pending.find? (·.id == id)).map f).getD s

def act (s : Threads) : Action → Threads
  | .acquire name => s.start name .acquire
  | .acquireWithin name timeout =>
    s.start name (.acquireUntil (s.calls.clock + timeout.millisRoundedUp) timeout)
  | .resize name target => s.start name (.resize target)
  | .grant id => s.onCall id s.grant
  | .tryGrant name => s.tryGrant name
  | .count name => s.count name
  | .runResize id => s.onCall id s.runResize
  | .drop id => s.onCall id s.drop
  | .uncount name => s.uncount name
  | .giveBack name => s.giveBack name
  | .advance millis => { s with calls.clock := s.calls.clock + millis }

/-- A gate with so many permits after some actions. -/
def after (capacity : Nat) (actions : List Action) : Threads := actions.foldl act (.new capacity)

end Threads

end MetricBatch.Gate
