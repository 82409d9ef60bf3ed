
namespace MetricBatch.Url.Idna.Punycode

def digitChar (d : Nat) : Char := if d < 26 then .ofNat (97 + d) else .ofNat (22 + d)

def digitValue? (c : Char) : Option Nat :=
  let n := c.toNat
  if 97 ≤ n && n ≤ 122 then some (n - 97)
  else if 65 ≤ n && n ≤ 90 then some (n - 65)
  else if 48 ≤ n && n ≤ 57 then some (n - 22)
  else none

/-- The threshold of the digit at a position. -/
def threshold (position bias : Nat) : Nat := max 1 (min 26 (position - bias))

theorem threshold_pos (position bias : Nat) : 1 ≤ threshold position bias := by
  unfold threshold; omega

theorem threshold_le (position bias : Nat) : threshold position bias ≤ 26 := by
  unfold threshold; omega

def flatten (delta k : Nat) : Nat × Nat :=
  if 455 < delta then flatten (delta / 35) (k + 36) else (delta, k)
termination_by delta
decreasing_by exact Nat.div_lt_self (by omega) (by omega)

/-- The bias after a difference: how many code points there are by now, and whether the difference
was the first. -/
def adapt (delta points : Nat) (first : Bool) : Nat :=
  let delta := if first then delta / 700 else delta / 2
  let (delta, k) := flatten (delta + delta / points) 0
  k + 36 * delta / (delta + 38)

/-- The digits of a difference. -/
def digits (bias position q : Nat) : List Char :=
  let t := threshold position bias
  if q < t then [digitChar q]
  else digitChar (t + (q - t) % (36 - t)) :: digits bias (position + 36) ((q - t) / (36 - t))
termination_by q
decreasing_by
  have := threshold_pos position bias
  have := threshold_le position bias
  exact Nat.lt_of_le_of_lt (Nat.div_le_self _ _) (by omega)

structure Encoding where
  written : List Char
  delta : Nat
  bias : Nat
  handled : Nat

/-- Passes one character of the text while looking for a code point. -/
def Encoding.pass (point basics : Nat) (e : Encoding) (c : Char) : Encoding :=
  if c.toNat < point then { e with delta := e.delta + 1 }
  else if c.toNat = point then
    { written := e.written ++ digits e.bias 36 e.delta
      delta := 0
      bias := adapt e.delta (e.handled + 1) (e.handled == basics)
      handled := e.handled + 1 }
  else e

def insertOnce (n : Nat) : List Nat → List Nat
  | [] => [n]
  | m :: rest =>
    if n < m then n :: m :: rest
    else if n = m then m :: rest
    else m :: insertOnce n rest

/-- The code points past ASCII, ascending. -/
def points (cs : List Char) : List Nat :=
  (cs.filter (0x80 ≤ ·.toNat)).foldl (fun ns c => insertOnce c.toNat ns) []

/-- Code points past ASCII as a list of differences, each a number of base 36 whose digits have
thresholds that adapt to the differences before it. -/
def encode (cs : List Char) : List Char :=
  let basic := cs.filter (·.toNat < 0x80)
  let round (s : Nat × Encoding) (point : Nat) : Nat × Encoding :=
    let (next, e) := s
    let e := { e with delta := e.delta + (point - next) * (e.handled + 1) }
    let e := cs.foldl (Encoding.pass point basic.length) e
    (point + 1, { e with delta := e.delta + 1 })
  let (_, e) := (points cs).foldl round (128, ⟨[], 0, 72, basic.length⟩)
  (if basic.isEmpty then [] else basic ++ ['-']) ++ e.written

/-- One difference: its value and the digits after it. -/
def readDigits (bias position weight sofar : Nat) : List Char → Option (Nat × List Char)
  | [] => none
  | c :: rest =>
    (digitValue? c).bind fun d =>
      let sofar := sofar + d * weight
      let t := threshold position bias
      if d < t then some (sofar, rest)
      else readDigits bias (position + 36) (weight * (36 - t)) sofar rest

/-- Inserts the code points of the differences that are left. -/
def insertAll : (turns : Nat) → List Char → (point index bias : Nat) → List Char →
    Option (List Char)
  | _, [], _, _, _, sofar => some sofar
  | 0, _, _, _, _, _ => none
  | turns + 1, cs, point, index, bias, sofar =>
    (readDigits bias 36 1 0 cs).bind fun (delta, rest) =>
      let size := sofar.length + 1
      let point := point + (index + delta) / size
      let place := (index + delta) % size
      if h : point.isValidChar then
        insertAll turns rest point (place + 1) (adapt delta size (index == 0))
          (sofar.take place ++ Char.ofNatAux point h :: sofar.drop place)
      else none

/-- The text of a list of differences, with the ASCII characters of it before the last hyphen. -/
def decode? (cs : List Char) : Option (List Char) :=
  let extended := (cs.reverse.takeWhile (· != '-')).reverse
  let basic := cs.take (cs.length - extended.length - 1)
  if basic.isEmpty && cs.head? == some '-' then none
  else insertAll cs.length extended 128 0 72 basic

end MetricBatch.Url.Idna.Punycode
