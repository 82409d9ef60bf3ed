import MetricBatch.Number.Binary64

namespace MetricBatch

/-- `digits · 10 ^ exponent`. -/
structure Decimal where
  digits : Nat
  exponent : Int
  deriving DecidableEq, Repr

/-- Where a number lies exactly between two decimals of one length. -/
inductive TieRule where
  | up
  | even
  deriving DecidableEq, Repr

namespace Decimal

def toBinary64 (negative : Bool) (d : Decimal) : Binary64 :=
  .ofDecimal negative d.digits d.exponent

def digitCount (n : Nat) : Nat := (Nat.toDigits 10 n).length

/-- The exponent of the leading digit of a positive ratio. -/
def leadingExponent (num den : Nat) : Int :=
  if den ≤ num then (digitCount (num / den) : Int) - 1 else -digitCount ((den - 1) / num)

/-- The ratio times a power of ten, again as a ratio. -/
def scale (num den : Nat) (power : Int) : Nat × Nat :=
  if 0 ≤ power then (num * Nat.pow 10 power.toNat, den) else (num, den * Nat.pow 10 (-power).toNat)

/-- The neighbours of a ratio among the decimals of `n` digits, the nearer one first. -/
def neighbours (tie : TieRule) (num den n : Nat) : List Decimal :=
  let lead := leadingExponent num den
  let unit := lead - (n - 1)
  let (num, den) := scale num den (-unit)
  let q := num / den
  let r := num % den
  let below : Decimal := ⟨q, unit⟩
  let above : Decimal := if q + 1 = Nat.pow 10 n then ⟨1, lead + 1⟩ else ⟨q + 1, unit⟩
  let lower := 2 * r < den || (2 * r == den && tie == .even && q % 2 == 0)
  if r = 0 then [below] else if lower then [below, above] else [above, below]

/-- The number written out in full. -/
def exact (word : Nat) : Decimal := ⟨Binary64.units word * Nat.pow 5 1074, -1074⟩

/-- The decimal with the fewest digits that reads back. On the grid of one digit, then of two, and
so on, only the two neighbours of the number can be nearest; the first grid on which one of them
reads back decides. Seventeen digits suffice for every word. -/
def shortest (tie : TieRule) (word : Nat) : Decimal :=
  let readsBack (d : Decimal) := d.toBinary64 false == Binary64.ofWord false word
  let onGrid (n : Nat) :=
    (neighbours tie (Binary64.units word) Binary64.unitsPerOne (n + 1)).find? readsBack
  ((List.range 17).findSome? onGrid).getD (exact word)

/-- Decimal digits with the point at its place, and no exponent. -/
def plain (d : Decimal) : List Char :=
  let digits := Nat.toDigits 10 d.digits
  if 0 ≤ d.exponent then digits ++ List.replicate d.exponent.toNat '0'
  else
    let places := (-d.exponent).toNat
    if places < digits.length then
      digits.take (digits.length - places) ++ '.' :: digits.drop (digits.length - places)
    else '0' :: '.' :: List.replicate (places - digits.length) '0' ++ digits

end Decimal

namespace Binary64

/-- The text of a number in full: the fewest digits that read back, a tie going up, and no exponent
however long that makes it. -/
def text : Binary64 → String
  | .finite negative word _ =>
    let digits := if word = 0 then ['0'] else (Decimal.shortest .up word).plain
    String.ofList (if negative then '-' :: digits else digits)
  | .infinite negative => if negative then "-inf" else "inf"
  | .nan => "NaN"

end Binary64

end MetricBatch
