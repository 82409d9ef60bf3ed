
namespace MetricBatch

/-- The words of finite magnitudes are those below this one. -/
def Binary64.infinityWord : Nat := 2047 * Nat.pow 2 52

/-- A floating-point number of 64 bits. A magnitude is kept as its word, the 63 bits below the sign;
every operation computes a ratio of natural numbers and rounds it once, to nearest, ties to the even
word. -/
inductive Binary64 where
  | finite (negative : Bool) (word : Nat) (inRange : word < Binary64.infinityWord)
  | infinite (negative : Bool)
  | nan
  deriving DecidableEq, Repr

namespace Binary64

/-- The quotient rounded to the nearest whole number, a tie to the even one. -/
def roundHalfEven (num den : Nat) : Nat :=
  let q := num / den
  let r := num % den
  if 2 * r < den then q
  else if 2 * r = den then q + q % 2
  else q + 1

/-- The shift of a word: its magnitude is a significand times two to the shift, in units of the
smallest positive magnitude. -/
def shift (word : Nat) : Nat := word / Nat.pow 2 52 - 1

def significand (word : Nat) : Nat := word - shift word * Nat.pow 2 52

/-- The magnitude of a word in units of the smallest positive one, which is `2⁻¹⁰⁷⁴`. -/
def units (word : Nat) : Nat := significand word * Nat.pow 2 (shift word)

/-- How many such units make one. -/
def unitsPerOne : Nat := Nat.pow 2 1074

/-- The word nearest to a ratio; it may lie past the finite ones. -/
def nearestWord (num den : Nat) : Nat :=
  let scaled := num * unitsPerOne
  let k := Nat.log2 (scaled / den) - 52
  k * Nat.pow 2 52 + roundHalfEven scaled (den * Nat.pow 2 k)

def ofWord (negative : Bool) (word : Nat) : Binary64 :=
  if h : word < infinityWord then .finite negative word h else .infinite negative

def ofRatio (negative : Bool) (num den : Nat) : Binary64 := ofWord negative (nearestWord num den)

def zero (negative : Bool) : Binary64 := ofWord negative 0

def ofNat (n : Nat) : Binary64 := ofRatio false n 1

def ofInt (n : Int) : Binary64 := ofRatio (n < 0) n.natAbs 1

/-- The number nearest to `digits · 10 ^ exponent`. Far beyond either end of the range the answer is
known without computing the power. -/
def ofDecimal (negative : Bool) (digits : Nat) (exponent : Int) : Binary64 :=
  let top := (Nat.log2 digits : Int) / 3 + 1 + exponent
  let bottom := (Nat.log2 digits : Int) / 4 + exponent
  if digits = 0 then zero negative
  else if 400 < bottom then .infinite negative
  else if top < -400 then zero negative
  else if 0 ≤ exponent then ofRatio negative (digits * Nat.pow 10 exponent.toNat) 1
  else ofRatio negative digits (Nat.pow 10 (-exponent).toNat)

def neg : Binary64 → Binary64
  | .finite s w h => .finite (!s) w h
  | .infinite s => .infinite (!s)
  | .nan => .nan

def isZero : Binary64 → Bool
  | .finite _ w _ => w == 0
  | _ => false

def isInfinite : Binary64 → Bool
  | .infinite _ => true
  | _ => false

/-- The product of two magnitudes, for numbers that are not negative. -/
def mul : Binary64 → Binary64 → Binary64
  | .finite s a _, .finite t b _ => ofRatio (s != t) (units a * units b) (unitsPerOne * unitsPerOne)
  | .nan, _ | _, .nan => .nan
  | .infinite s, .finite t b _ => if b = 0 then .nan else .infinite (s != t)
  | .finite s a _, .infinite t => if a = 0 then .nan else .infinite (s != t)
  | .infinite s, .infinite t => .infinite (s != t)

def div : Binary64 → Binary64 → Binary64
  | .finite s a _, .finite t b _ =>
    if b = 0 then if a = 0 then .nan else .infinite (s != t)
    else ofRatio (s != t) (units a) (units b)
  | .nan, _ | _, .nan => .nan
  | .infinite s, .finite t _ _ => .infinite (s != t)
  | .finite s _ _, .infinite t => zero (s != t)
  | .infinite _, .infinite _ => .nan

/-- The sum of two finite magnitudes. -/
def addMagnitudes (a b : Nat) : Binary64 := ofRatio false (units a + units b) unitsPerOne

end Binary64

end MetricBatch
