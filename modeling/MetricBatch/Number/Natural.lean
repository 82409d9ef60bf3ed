
namespace MetricBatch.Natural

inductive ReadError where
  | empty
  | invalidDigit
  | tooLarge
  deriving DecidableEq, Repr

def ReadError.message : ReadError → String
  | .empty => "cannot parse integer from empty string"
  | .invalidDigit => "invalid digit found in string"
  | .tooLarge => "number too large to fit in target type"

/-- The largest number of 64 bits. -/
def max64 : Nat := Nat.pow 2 64 - 1

def digit? (c : Char) : Option Nat := if c.isDigit then some (c.toNat - '0'.toNat) else none

/-- Goes on from the number read so far. The first fault from the left is the one reported. -/
def readDigits (bound : Nat) (sofar : Nat) : List Char → Except ReadError Nat
  | [] => .ok sofar
  | c :: rest =>
    match digit? c with
    | none => .error .invalidDigit
    | some d =>
      if sofar * 10 + d ≤ bound then readDigits bound (sofar * 10 + d) rest else .error .tooLarge

/-- A natural number in decimal, up to a bound. A leading plus sign is allowed. -/
def read (bound : Nat) : List Char → Except ReadError Nat
  | [] => .error .empty
  | ['+'] => .error .invalidDigit
  | '+' :: rest => readDigits bound 0 rest
  | cs => readDigits bound 0 cs

end MetricBatch.Natural
