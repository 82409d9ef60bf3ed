import MetricBatch.Dictionary
import MetricBatch.Number.Binary64

namespace MetricBatch.Json

/-- What 64 bits hold with a sign or without one. -/
abbrev Number.InRange (n : Int) : Prop := -9223372036854775808 ≤ n ∧ n < 18446744073709551616

/-- A whole number of 64 bits, with or without a sign, or a finite floating-point number. -/
inductive Number where
  | whole (value : Int) (inRange : Number.InRange value)
  | real (negative : Bool) (word : Nat) (inRange : word < Binary64.infinityWord)
  deriving Repr

def Number.toBinary64 : Number → Binary64
  | .whole n _ => .ofInt n
  | .real negative word h => .finite negative word h

/-- The number for a floating-point value; those that are not finite have none. -/
def Number.ofBinary64? : Binary64 → Option Number
  | .finite negative word h => some (.real negative word h)
  | _ => none

inductive Value where
  | null
  | boolean (b : Bool)
  | number (n : Number)
  | string (s : String)
  | array (items : List Value)
  | object (members : List (String × Value))
  deriving Repr

namespace Value

def string? : Value → Option String
  | .string s => some s
  | _ => none

def number? : Value → Option Number
  | .number n => some n
  | _ => none

def array? : Value → Option (List Value)
  | .array items => some items
  | _ => none

def object? : Value → Option (Dictionary Value)
  | .object members => some members
  | _ => none

/-- A member of an object; other values have none. -/
def member? (v : Value) (key : String) : Option Value := v.object?.bind (Dictionary.get? key)

end Value

end MetricBatch.Json
