import MetricBatch.Text.Utf8

namespace MetricBatch.Url.Percent

/-- Bytes that no part of a URL shows. -/
def control (b : UInt8) : Bool := b < 0x20 || 0x7E < b

def isOneOf (chars : String) (b : UInt8) : Bool := chars.toList.any fun c => c.toNat == b.toNat

def fragment (b : UInt8) : Bool := control b || isOneOf " \"<>`" b

def query (b : UInt8) : Bool := control b || isOneOf " \"#<>" b

/-- The query of a URL whose scheme has a host by its nature. -/
def specialQuery (b : UInt8) : Bool := query b || isOneOf "'" b

def path (b : UInt8) : Bool := fragment b || isOneOf "#?\x7b\x7d" b

def userInfo (b : UInt8) : Bool := path b || isOneOf "/:;=@[\\]^|" b

def hexDigit (n : Nat) : Char := if n < 10 then .ofNat (48 + n) else .ofNat (55 + n)

def encodeByte (b : UInt8) : List Char :=
  ['%', hexDigit (b.toNat / 16), hexDigit (b.toNat % 16)]

/-- The text of bytes, those in the set encoded. -/
def encodeBytes (set : UInt8 → Bool) (bytes : List UInt8) : List Char :=
  bytes.flatMap fun b => if set b then encodeByte b else [Char.ofNat b.toNat]

/-- Bytes that may not stand in a part of a URL are written as two hexadecimal digits after a
percent sign. Which bytes those are depends on the part; bytes past ASCII always are. -/
def encode (set : UInt8 → Bool) (cs : List Char) : List Char :=
  encodeBytes set (Text.Utf8.encode cs)

def hexValue? (b : UInt8) : Option Nat :=
  let n := b.toNat
  if 48 ≤ n && n ≤ 57 then some (n - 48)
  else if 65 ≤ n && n ≤ 70 then some (n - 55)
  else if 97 ≤ n && n ≤ 102 then some (n - 87)
  else none

/-- A percent sign without two digits after it stands for itself. -/
def decode : List UInt8 → List UInt8
  | 0x25 :: a :: b :: rest =>
    match hexValue? a, hexValue? b with
    | some x, some y => (x * 16 + y).toUInt8 :: decode rest
    | _, _ => 0x25 :: decode (a :: b :: rest)
  | b :: rest => b :: decode rest
  | [] => []

end MetricBatch.Url.Percent
