import MetricBatch.Backend.Request
import MetricBatch.CommandLine.Arguments

namespace MetricBatch.CommandLine

inductive WindowError where
  | zeroStep
  /-- More seconds than a signed number of 64 bits can count. -/
  | tooManySeconds
  /-- More milliseconds than that. -/
  | tooLong
  /-- The window would start before the earliest moment. -/
  | beforeEarliest
  deriving DecidableEq, Repr

namespace Arguments

def defaultStep : Nat := 60

def maxSigned : Nat := Nat.pow 2 63 - 1

/-- The range of the queries, which ends now; none if they are to run at a single instant. -/
def window (a : Arguments) (now : Moment) : Except WindowError (Option QueryRange) :=
  match a.range with
  | .none => .ok .none
  | some seconds =>
    let step := a.step.getD defaultStep
    if step = 0 then .error .zeroStep
    else if maxSigned < seconds then .error .tooManySeconds
    else if maxSigned < seconds * 1000 then .error .tooLong
    else
      match now.before? seconds with
      | .none => .error .beforeEarliest
      | some start => .ok (some ⟨start, now, .ofSeconds step⟩)

end Arguments

end MetricBatch.CommandLine
