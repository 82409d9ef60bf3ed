import MetricBatch.Gate.Basic

namespace MetricBatch.Gate

variable {ι : Type} [DecidableEq ι]

inductive ResizeProgress where
  | pending
  | refused
  /-- With the capacity before. -/
  | changed (old : Nat)
  deriving DecidableEq, Repr

def isValidCapacity (n : Nat) : Bool := 1 ≤ n && n ≤ maxCapacity

/-- The most permits that one change can collect. -/
def maxSurplus : Nat := Nat.pow 2 32 - 1

/-- A change waits for its turn. -/
def startResize (g : Gate ι) (call : ι) (target : Nat) : Gate ι :=
  { g with resizes := g.resizes ++ [⟨call, target, false⟩] }

/-- The permits that a growing change adds come free at once. -/
def grow (g : Gate ι) (r : Resize ι) (rest : List (Resize ι)) : Gate ι :=
  { g with capacity := r.target, resizes := rest }.addPermits (r.target - g.capacity)

/-- A shrinking change asks for the difference. -/
def beginShrink (g : Gate ι) (r : Resize ι) (rest : List (Resize ι)) : Gate ι :=
  { g with resizes := { r with begun := true } :: rest }.request r.call (g.capacity - r.target)

/-- Keeps the permits that a shrinking change has collected. -/
def retire (g : Gate ι) (r : Resize ι) (rest : List (Resize ι)) : Gate ι :=
  { g.remove r.call with capacity := r.target, resizes := rest }

/-- A change of the capacity runs on, if it is its turn. More permits come free at once. Fewer are
had by collecting permits like any call in the queue and keeping them; no held permit is taken away,
and the capacity changes when the last one is collected. -/
def advanceResize (g : Gate ι) (call : ι) : Gate ι × ResizeProgress :=
  match g.resizes with
  | [] => (g, .pending)
  | r :: rest =>
    if r.call ≠ call then (g, .pending)
    else if r.begun then
      if g.isGranted call then (g.retire r rest, .changed g.capacity) else (g, .pending)
    else if g.capacity ≤ r.target then (g.grow r rest, .changed g.capacity)
    else if maxSurplus < g.capacity - r.target then ({ g with resizes := rest }, .refused)
    else if (g.beginShrink r rest).isGranted call then
      ((g.beginShrink r rest).retire r rest, .changed g.capacity)
    else (g.beginShrink r rest, .pending)

/-- A call gives up, whatever it waits for. -/
def cancel (g : Gate ι) (call : ι) : Gate ι :=
  { g with resizes := g.resizes.filter (·.call != call) }.withdraw call

end MetricBatch.Gate
