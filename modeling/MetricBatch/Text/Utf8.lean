
namespace MetricBatch.Text.Utf8

/-- The bytes of one character. -/
def encodeChar (c : Char) : List UInt8 :=
  let n := c.toNat
  if n < 0x80 then [n.toUInt8]
  else if n < 0x800 then [(0xC0 + n / 64).toUInt8, (0x80 + n % 64).toUInt8]
  else if n < 0x10000 then
    [(0xE0 + n / 4096).toUInt8, (0x80 + n / 64 % 64).toUInt8, (0x80 + n % 64).toUInt8]
  else
    [(0xF0 + n / 262144).toUInt8, (0x80 + n / 4096 % 64).toUInt8, (0x80 + n / 64 % 64).toUInt8,
      (0x80 + n % 64).toUInt8]

def encode (cs : List Char) : List UInt8 := cs.flatMap encodeChar

def ofString (s : String) : List UInt8 := encode s.toList

/-- How many bytes a sequence has and what its second byte may be, by its first byte. The narrowed
ranges keep out overlong forms, surrogates and numbers past the last code point. -/
def lead (b : UInt8) : Option (Nat × Nat × Nat) :=
  let n := b.toNat
  if n < 0x80 then some (1, 0, 0)
  else if n < 0xC2 then none
  else if n < 0xE0 then some (2, 0x80, 0xBF)
  else if n = 0xE0 then some (3, 0xA0, 0xBF)
  else if n = 0xED then some (3, 0x80, 0x9F)
  else if n < 0xF0 then some (3, 0x80, 0xBF)
  else if n = 0xF0 then some (4, 0x90, 0xBF)
  else if n < 0xF4 then some (4, 0x80, 0xBF)
  else if n = 0xF4 then some (4, 0x80, 0x8F)
  else none

def isTail (b : UInt8) : Bool := 0x80 ≤ b.toNat && b.toNat ≤ 0xBF

/-- How many leading bytes are the start of some character: the whole of it, or all that is there
before a byte that cannot follow. At least one. -/
def span : List UInt8 → Nat
  | [] => 1
  | b :: rest =>
    match lead b with
    | none => 1
    | some (1, _, _) => 1
    | some (n, lo, hi) =>
      match rest with
      | [] => 1
      | c :: rest =>
        if lo ≤ c.toNat && c.toNat ≤ hi then 2 + ((rest.take (n - 2)).takeWhile isTail).length
        else 1

/-- The code point that a complete sequence stands for. -/
def value : List UInt8 → Nat
  | [a] => a.toNat
  | [a, b] => a.toNat % 32 * 64 + b.toNat % 64
  | [a, b, c] => a.toNat % 16 * 4096 + b.toNat % 64 * 64 + c.toNat % 64
  | [a, b, c, d] =>
    a.toNat % 8 * 262144 + b.toNat % 64 * 4096 + c.toNat % 64 * 64 + d.toNat % 64
  | _ => 0

/-- The character at the front of the bytes, with its number of bytes. -/
def head? (bytes : List UInt8) : Option (Char × Nat) :=
  match bytes with
  | [] => none
  | b :: _ =>
    match lead b with
    | none => none
    | some (n, _, _) => if span bytes = n then some (.ofNat (value (bytes.take n)), n) else none

/-- Reads every byte, or nothing. -/
def decode? : List UInt8 → Option (List Char)
  | [] => some []
  | b :: rest =>
    match head? (b :: rest) with
    | none => none
    | some (c, n) => (decode? (rest.drop (n - 1))).map (c :: ·)
termination_by bytes => bytes.length
decreasing_by simp only [List.length_drop, List.length_cons]; omega

/-- Reads any bytes: the longest start of a character that is not completed, and each byte that
starts none, becomes one replacement character. -/
def lossy : List UInt8 → List Char
  | [] => []
  | b :: rest =>
    match head? (b :: rest) with
    | none => '\uFFFD' :: lossy (rest.drop (span (b :: rest) - 1))
    | some (c, n) => c :: lossy (rest.drop (n - 1))
termination_by bytes => bytes.length
decreasing_by all_goals (simp only [List.length_drop, List.length_cons]; omega)

def toString? (bytes : List UInt8) : Option String := (decode? bytes).map String.ofList

end MetricBatch.Text.Utf8
