import MetricBatch.Time.Span

namespace MetricBatch

/-- A call in the queue: how many permits it wants, and how many of them it has. -/
structure Waiter (ι : Type) where
  call : ι
  wants : Nat
  got : Nat
  deriving DecidableEq, Repr

/-- A change of the capacity. Changes run one after the other; one that shrinks is begun when it
starts to collect permits. -/
structure Resize (ι : Type) where
  call : ι
  target : Nat
  begun : Bool
  deriving DecidableEq, Repr

/-- A number of permits, and a queue of calls that wait for them. Permits that come free go to the
head of the queue until it has all it wants; only what no call in the queue wants is available. A
call that has all its permits takes them when it next runs. -/
structure Gate (ι : Type) where
  capacity : Nat
  available : Nat
  queue : List (Waiter ι)
  /-- Calls that have all their permits and have not run since. -/
  granted : List (Waiter ι)
  inFlight : Nat
  peak : Nat
  total : Nat
  /-- Changes of the capacity in the order of their calls; the first one is under way. -/
  resizes : List (Resize ι)
  deriving DecidableEq, Repr

structure GateStats where
  capacity : Nat
  inFlight : Nat
  peak : Nat
  waiting : Nat
  total : Nat
  deriving DecidableEq, Repr

namespace Gate

/-- The most permits that a gate can have. -/
def maxCapacity : Nat := Nat.pow 2 61 - 1

def defaultCapacity : Nat := 20

variable {ι : Type}

/-- A gate with this many permits, or with the nearest number that a gate can have. -/
def new (capacity : Nat) : Gate ι :=
  let capacity := max 1 (min capacity maxCapacity)
  { capacity, available := capacity, queue := [], granted := [], inFlight := 0, peak := 0
    total := 0, resizes := [] }

/-- Adds a number up over a list. -/
def tally {α : Type} (f : α → Nat) : List α → Nat
  | [] => 0
  | a :: rest => f a + tally f rest

/-- The permits that calls have by now. -/
def permitsOf (ws : List (Waiter ι)) : Nat := tally (·.got) ws

/-- The calls that want permits and have not run with them yet. -/
def waiters (g : Gate ι) : List (Waiter ι) := g.granted ++ g.queue

def waiting (g : Gate ι) : Nat := g.waiters.length

def stats (g : Gate ι) : GateStats := ⟨g.capacity, g.inFlight, g.peak, g.waiting, g.total⟩

/-- Hands permits to a queue from its head: who has all it wants now, who still waits, and how many
permits are left. -/
def hand (n : Nat) : List (Waiter ι) → List (Waiter ι) × List (Waiter ι) × Nat
  | [] => ([], [], n)
  | w :: rest =>
    if w.wants ≤ w.got + n then
      let (served, queue, left) := hand (w.got + n - w.wants) rest
      ({ w with got := w.wants } :: served, queue, left)
    else ([], { w with got := w.got + n } :: rest, 0)

/-- Permits come free. -/
def addPermits (g : Gate ι) (n : Nat) : Gate ι :=
  let (served, queue, left) := hand n g.queue
  { g with queue, granted := g.granted ++ served, available := g.available + left }

/-- A call asks for permits: it has them at once, or takes what is there and joins the queue. -/
def request (g : Gate ι) (call : ι) (wants : Nat) : Gate ι :=
  if wants ≤ g.available then
    { g with available := g.available - wants, granted := g.granted ++ [⟨call, wants, wants⟩] }
  else { g with available := 0, queue := g.queue ++ [⟨call, wants, g.available⟩] }

/-- One permit more counts as held. -/
def countHeld (g : Gate ι) : Gate ι :=
  { g with inFlight := g.inFlight + 1, peak := max g.peak (g.inFlight + 1), total := g.total + 1 }

def tryAcquire? (g : Gate ι) : Option (Gate ι) :=
  if 0 < g.available then some { g with available := g.available - 1 }.countHeld else none

/-- A held permit is given back. -/
def release (g : Gate ι) : Gate ι := { g with inFlight := g.inFlight - 1 }.addPermits 1

variable [DecidableEq ι]

def isGranted (g : Gate ι) (call : ι) : Bool := g.granted.any (·.call == call)

def removeCall (call : ι) (ws : List (Waiter ι)) : List (Waiter ι) := ws.filter (·.call != call)

/-- A call waits no more. -/
def remove (g : Gate ι) (call : ι) : Gate ι :=
  { g with queue := removeCall call g.queue, granted := removeCall call g.granted }

/-- A call that was granted its permit runs on with it. -/
def take (g : Gate ι) (call : ι) : Gate ι := (g.remove call).countHeld

/-- The permits that a call that waits has by now. -/
def collected (g : Gate ι) (call : ι) : Nat :=
  permitsOf (g.waiters.filter (·.call == call))

/-- A call gives up waiting; what it has collected comes free. -/
def withdraw (g : Gate ι) (call : ι) : Gate ι := (g.remove call).addPermits (g.collected call)

end Gate

/-- Why a gate refuses a call. -/
inductive GateError where
  | closed
  | timeout (waited : Span)
  | invalidCapacity (capacity : Nat)
  deriving DecidableEq, Repr

def GateError.message : GateError → String
  | .closed => "admission gate is closed"
  | .timeout waited => s!"timed out after {waited.text} waiting for an admission permit"
  | .invalidCapacity capacity => s!"invalid admission gate capacity {capacity}"

/-- The counters of a gate as they are shown. -/
def GateStats.text (s : GateStats) : String :=
  "GateStats \x7b capacity: " ++ s!"{s.capacity}, in_flight: {s.inFlight}, "
    ++ s!"peak_in_flight: {s.peak}, waiting: {s.waiting}, total_acquired: {s.total}" ++ " \x7d"

def GateStats.gateText (s : GateStats) : String :=
  "AdmissionGate \x7b stats: " ++ s.text ++ ", .. \x7d"

/-- How a held permit is shown. -/
def permitText : String := "GatePermit \x7b .. \x7d"

end MetricBatch
