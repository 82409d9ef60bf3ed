import MetricBatch.Json.Value
import MetricBatch.Text.Utf8

namespace MetricBatch.Json

inductive Fault where
  | endInList
  | endInObject
  | endInString
  | endInValue
  | colonExpected
  | listCommaExpected
  | objectCommaExpected
  | identExpected
  | valueExpected
  | invalidEscape
  | invalidNumber
  | numberOutOfRange
  | invalidCodePoint
  | controlCharacter
  | keyNotString
  | loneSurrogate
  | trailingComma
  | trailingCharacters
  | endOfHexEscape
  | tooDeep
  deriving DecidableEq, Repr

def Fault.message : Fault → String
  | .endInList => "EOF while parsing a list"
  | .endInObject => "EOF while parsing an object"
  | .endInString => "EOF while parsing a string"
  | .endInValue => "EOF while parsing a value"
  | .colonExpected => "expected `:`"
  | .listCommaExpected => "expected `,` or `]`"
  | .objectCommaExpected => "expected `,` or `\x7d`"
  | .identExpected => "expected ident"
  | .valueExpected => "expected value"
  | .invalidEscape => "invalid escape"
  | .invalidNumber => "invalid number"
  | .numberOutOfRange => "number out of range"
  | .invalidCodePoint => "invalid unicode code point"
  | .controlCharacter => "control character (\\u0000-\\u001F) found while parsing a string"
  | .keyNotString => "key must be a string"
  | .loneSurrogate => "lone leading surrogate in hex escape"
  | .trailingComma => "trailing comma"
  | .trailingCharacters => "trailing characters"
  | .endOfHexEscape => "unexpected end of hex escape"
  | .tooDeep => "recursion limit exceeded"

/-- A fault and how many bytes lie behind it. -/
structure Stop where
  fault : Fault
  unread : Nat
  deriving DecidableEq, Repr

variable {α : Type}

/-- A fault in what was read up to here. -/
def stopAt (fault : Fault) (rest : List UInt8) : Except Stop α := .error ⟨fault, rest.length⟩

/-- A fault in the byte that comes next. -/
def stopNext (fault : Fault) (rest : List UInt8) : Except Stop α :=
  .error ⟨fault, rest.length - 1⟩

def isSpace (b : UInt8) : Bool := b == 0x20 || b == 0x0A || b == 0x0D || b == 0x09

def skipSpaces (bytes : List UInt8) : List UInt8 := bytes.dropWhile isSpace

def digit? (b : UInt8) : Option Nat :=
  if 0x30 ≤ b && b ≤ 0x39 then some (b.toNat - 0x30) else none

def skipDigits (bytes : List UInt8) : List UInt8 := bytes.dropWhile fun b => (digit? b).isSome

def hexDigit? (b : UInt8) : Option Nat :=
  let n := b.toNat
  if 0x30 ≤ n && n ≤ 0x39 then some (n - 0x30)
  else if 0x41 ≤ n && n ≤ 0x46 then some (n - 0x37)
  else if 0x61 ≤ n && n ≤ 0x66 then some (n - 0x57)
  else none

/-- The four digits of a number in an escape. -/
def hexEscape : List UInt8 → Except Stop (Nat × List UInt8)
  | a :: b :: c :: d :: rest =>
    match hexDigit? a, hexDigit? b, hexDigit? c, hexDigit? d with
    | some a, some b, some c, some d => .ok (((a * 16 + b) * 16 + c) * 16 + d, rest)
    | _, _, _, _ => stopAt .invalidEscape rest
  | _ => stopAt .endInString []

/-- A particular byte inside a pair of escapes. -/
def expectInPair (b : UInt8) : List UInt8 → Except Stop (Unit × List UInt8)
  | [] => stopAt .endInString []
  | c :: rest => if c = b then .ok ((), rest) else stopAt .endOfHexEscape rest

/-- The character of a `\u` escape, which may be a pair of surrogates. -/
def unicodeEscape (bytes : List UInt8) : Except Stop (Char × List UInt8) := do
  let (high, rest) ← hexEscape bytes
  if 0xDC00 ≤ high && high ≤ 0xDFFF then stopAt .loneSurrogate rest
  else if high < 0xD800 || 0xDBFF < high then return (.ofNat high, rest)
  else
    let ((), rest) ← expectInPair 0x5C rest
    let ((), rest) ← expectInPair 0x75 rest
    let (low, rest) ← hexEscape rest
    if low < 0xDC00 || 0xDFFF < low then stopAt .loneSurrogate rest
    else return (.ofNat (0x10000 + (high - 0xD800) * 1024 + (low - 0xDC00)), rest)

/-- The character of an escape, after its backslash. -/
def escape : List UInt8 → Except Stop (Char × List UInt8)
  | [] => stopAt .endInString []
  | b :: rest =>
    match Char.ofUInt8 b with
    | '"' => .ok ('"', rest)
    | '\\' => .ok ('\\', rest)
    | '/' => .ok ('/', rest)
    | 'b' => .ok ('\x08', rest)
    | 'f' => .ok ('\x0c', rest)
    | 'n' => .ok ('\n', rest)
    | 'r' => .ok ('\r', rest)
    | 't' => .ok ('\t', rest)
    | 'u' => unicodeEscape rest
    | _ => stopAt .invalidEscape rest

/-- The bytes of a string up to its closing quote, escapes resolved. Every turn takes at least one
byte, so as many turns as there are bytes are enough. -/
def stringBytes : (turns : Nat) → List UInt8 → Except Stop (List UInt8 × List UInt8)
  | 0, bytes => stopAt .endInString bytes
  | _ + 1, [] => stopAt .endInString []
  | turns + 1, b :: rest =>
    if b = 0x22 then .ok ([], rest)
    else if b = 0x5C then do
      let (c, rest) ← escape rest
      let (more, rest) ← stringBytes turns rest
      return (Text.Utf8.encodeChar c ++ more, rest)
    else if b < 0x20 then stopAt .controlCharacter rest
    else do
      let (more, rest) ← stringBytes turns rest
      return (b :: more, rest)

/-- How many bytes at the front are complete characters. -/
def validLength : List UInt8 → Nat
  | [] => 0
  | b :: rest =>
    match Text.Utf8.head? (b :: rest) with
    | none => 0
    | some (_, n) => 1 + (n - 1) + validLength (rest.drop (n - 1))
termination_by bytes => bytes.length
decreasing_by simp only [List.length_drop, List.length_cons]; omega

/-- A string after its opening quote. -/
def stringAt (bytes : List UInt8) : Except Stop (String × List UInt8) := do
  let (content, rest) ← stringBytes (bytes.length + 1) bytes
  match Text.Utf8.toString? content with
  | some s => return (s, rest)
  | none => stopNext .invalidCodePoint (bytes.drop (validLength bytes))

/-- The largest significand kept exactly. -/
def maxSignificand : Nat := Nat.pow 2 64 - 1

/-- The largest exponent kept exactly. -/
def maxExponent : Nat := Nat.pow 2 31 - 1

def powerOfTen (n : Nat) : Binary64 := .ofDecimal false 1 n

/-- Multiplies by at most one power of ten; below the reach of one division it divides by `1e308`
until it gets there or nothing is left. -/
def scaleDown : (turns : Nat) → Binary64 → (exponent : Nat) → Binary64
  | 0, x, _ => x
  | turns + 1, x, e =>
    if e ≤ 308 then x.div (powerOfTen e)
    else if x.isZero then x
    else scaleDown turns (x.div (powerOfTen 308)) (e - 308)

/-- The number with these parts, unless it is too large. -/
def ofParts (negative : Bool) (significand : Nat) (exponent : Int) (rest : List UInt8) :
    Except Stop (Number × List UInt8) :=
  let x := Binary64.ofNat significand
  let magnitude : Option Binary64 :=
    if exponent < 0 then some (scaleDown 4 x exponent.natAbs)
    else if exponent ≤ 308 then
      let y := x.mul (powerOfTen exponent.toNat)
      if y.isInfinite then none else some y
    else if x.isZero then some x
    else none
  match magnitude with
  | none => stopAt .numberOutOfRange rest
  | some y =>
    match Number.ofBinary64? (if negative then y.neg else y) with
    | none => stopAt .numberOutOfRange rest
    | some n => .ok (n, rest)

/-- Whether a number goes on with an exponent. -/
def startsExponent : List UInt8 → Bool
  | b :: _ => b == 0x65 || b == 0x45
  | [] => false

/-- The digits of an exponent after its first, while they fit. -/
def exponentDigits (sofar : Nat) : List UInt8 → Option Nat × List UInt8
  | [] => (some sofar, [])
  | b :: rest =>
    match digit? b with
    | none => (some sofar, b :: rest)
    | some d =>
      if sofar * 10 + d ≤ maxExponent then exponentDigits (sofar * 10 + d) rest else (none, rest)

/-- An exponent after its mark. -/
def withExponent (negative : Bool) (significand : Nat) (start : Int) (bytes : List UInt8) :
    Except Stop (Number × List UInt8) :=
  let (down, bytes) :=
    match bytes with
    | 0x2B :: rest => (false, rest)
    | 0x2D :: rest => (true, rest)
    | rest => (false, rest)
  match bytes with
  | [] => stopAt .endInValue []
  | b :: rest =>
    match digit? b with
    | none => stopAt .invalidNumber rest
    | some d =>
      match exponentDigits d rest with
      | (some e, rest) => ofParts negative significand (if down then start - e else start + e) rest
      | (none, rest) =>
        if significand ≠ 0 && !down then stopAt .numberOutOfRange rest
        else ofParts negative 0 0 (skipDigits rest)

/-- The digits after a point, as long as the significand can take them: the significand, how many
there were, and whether one was left over. -/
def fractionDigits (significand places : Nat) : List UInt8 → Nat × Nat × Bool × List UInt8
  | [] => (significand, places, false, [])
  | b :: rest =>
    match digit? b with
    | none => (significand, places, false, b :: rest)
    | some d =>
      if significand * 10 + d ≤ maxSignificand then
        fractionDigits (significand * 10 + d) (places + 1) rest
      else (significand, places, true, b :: rest)

/-- The part of a number after its point. -/
def withFraction (negative : Bool) (significand : Nat) (start : Int) (bytes : List UInt8) :
    Except Stop (Number × List UInt8) :=
  let (significand, places, cut, rest) := fractionDigits significand 0 bytes
  if places = 0 && !cut then
    if rest.isEmpty then stopNext .endInValue rest else stopNext .invalidNumber rest
  else
    let rest := if cut then skipDigits rest else rest
    let exponent := start - places
    if startsExponent rest then withExponent negative significand exponent (rest.drop 1)
    else ofParts negative significand exponent rest

/-- A number whose digits before the point are more than can be kept. -/
def longNumber (negative : Bool) (significand : Nat) (bytes : List UInt8) :
    Except Stop (Number × List UInt8) :=
  let rest := skipDigits bytes
  let dropped := bytes.length - rest.length
  if rest.head? = some 0x2E then withFraction negative significand dropped (rest.drop 1)
  else if startsExponent rest then withExponent negative significand dropped (rest.drop 1)
  else ofParts negative significand dropped rest

/-- What comes after the whole part. -/
def afterWhole (negative : Bool) (significand : Nat) (rest : List UInt8) :
    Except Stop (Number × List UInt8) :=
  if rest.head? = some 0x2E then withFraction negative significand 0 (rest.drop 1)
  else if startsExponent rest then withExponent negative significand 0 (rest.drop 1)
  else
    let n : Int := if negative then -significand else significand
    if negative && significand = 0 then ofParts true 0 0 rest
    else if h : Number.InRange n then .ok (.whole n h, rest)
    else ofParts negative significand 0 rest

/-- The digits of the whole part after its first. -/
def wholeDigits (negative : Bool) (significand : Nat) :
    List UInt8 → Except Stop (Number × List UInt8)
  | [] => afterWhole negative significand []
  | b :: rest =>
    match digit? b with
    | none => afterWhole negative significand (b :: rest)
    | some d =>
      if significand * 10 + d ≤ maxSignificand then
        wholeDigits negative (significand * 10 + d) rest
      else longNumber negative significand (b :: rest)

/-- A number after its sign. A zero in front stands alone. A number with a point, with an exponent
or of more than 64 bits becomes a floating-point number by its leading digits and one power of ten,
each rounded. -/
def numberAt (negative : Bool) : List UInt8 → Except Stop (Number × List UInt8)
  | [] => stopAt .endInValue []
  | b :: rest =>
    match digit? b with
    | none => stopAt .invalidNumber rest
    | some 0 =>
      if (rest.head?.bind digit?).isSome then stopNext .invalidNumber rest
      else afterWhole negative 0 rest
    | some d => wholeDigits negative d rest

/-- The rest of one of the three words. -/
def word (v : Value) : (letters : List UInt8) → List UInt8 → Except Stop (Value × List UInt8)
  | [], rest => .ok (v, rest)
  | _ :: _, [] => stopAt .endInValue []
  | a :: letters, b :: rest => if a = b then word v letters rest else stopAt .identExpected rest

/-- The elements of a list up to its bracket; before all but the first there is a comma. -/
def items (value : List UInt8 → Except Stop (Value × List UInt8)) (first : Bool) :
    (turns : Nat) → List UInt8 → Except Stop (List Value × List UInt8)
  | 0, bytes => stopNext .endInList bytes
  | turns + 1, bytes => do
    let next (bytes : List UInt8) : Except Stop (List Value × List UInt8) := do
      let (v, rest) ← value bytes
      let (more, rest) ← items value false turns rest
      return (v :: more, rest)
    match skipSpaces bytes with
    | [] => stopNext .endInList []
    | b :: rest =>
      if b = 0x5D then return ([], rest)
      else if first then next (b :: rest)
      else if b = 0x2C then
        match skipSpaces rest with
        | [] => stopNext .endInValue []
        | 0x5D :: rest => stopNext .trailingComma (0x5D :: rest)
        | rest => next rest
      else stopNext .listCommaExpected (b :: rest)

/-- One member of an object after the opening quote of its key. -/
def member (value : List UInt8 → Except Stop (Value × List UInt8)) (bytes : List UInt8) :
    Except Stop ((String × Value) × List UInt8) := do
  let (key, rest) ← stringAt bytes
  match skipSpaces rest with
  | [] => stopNext .endInObject []
  | 0x3A :: rest =>
    let (v, rest) ← value rest
    return ((key, v), rest)
  | rest => stopNext .colonExpected rest

/-- The members of an object up to its brace, in the order in which they stand. -/
def members (value : List UInt8 → Except Stop (Value × List UInt8)) (first : Bool) :
    (turns : Nat) → List UInt8 → Except Stop (List (String × Value) × List UInt8)
  | 0, bytes => stopNext .endInObject bytes
  | turns + 1, bytes => do
    let next (bytes : List UInt8) : Except Stop (List (String × Value) × List UInt8) := do
      let (m, rest) ← member value bytes
      let (more, rest) ← members value false turns rest
      return (m :: more, rest)
    match skipSpaces bytes with
    | [] => stopNext .endInObject []
    | b :: rest =>
      if b = 0x7D then return ([], rest)
      else if first then
        if b = 0x22 then next rest else stopNext .keyNotString (b :: rest)
      else if b = 0x2C then
        match skipSpaces rest with
        | [] => stopNext .endInValue []
        | 0x22 :: rest => next rest
        | 0x7D :: rest => stopNext .trailingComma (0x7D :: rest)
        | rest => stopNext .keyNotString rest
      else stopNext .objectCommaExpected (b :: rest)

/-- How many containers may stand inside each other. -/
def maxDepth : Nat := 127

/-- A value with at most so many containers inside each other. -/
def valueAt (depth : Nat) (bytes : List UInt8) : Except Stop (Value × List UInt8) :=
  match skipSpaces bytes with
  | [] => stopNext .endInValue []
  | b :: rest =>
    match Char.ofUInt8 b with
    | 'n' => word .null [0x75, 0x6C, 0x6C] rest
    | 't' => word (.boolean true) [0x72, 0x75, 0x65] rest
    | 'f' => word (.boolean false) [0x61, 0x6C, 0x73, 0x65] rest
    | '"' => (stringAt rest).map fun (s, rest) => (.string s, rest)
    | '-' => (numberAt true rest).map fun (n, rest) => (.number n, rest)
    | '[' =>
      match depth with
      | 0 => stopNext .tooDeep (b :: rest)
      | depth + 1 =>
        (items (valueAt depth) true (rest.length + 1) rest).map fun (vs, rest) => (.array vs, rest)
    | '\x7b' =>
      match depth with
      | 0 => stopNext .tooDeep (b :: rest)
      | depth + 1 =>
        (members (valueAt depth) true (rest.length + 1) rest).map fun (ms, rest) =>
          (.object (Dictionary.ofList ms), rest)
    | _ =>
      if (digit? b).isSome then (numberAt false (b :: rest)).map fun (n, rest) => (.number n, rest)
      else stopNext .valueExpected (b :: rest)

/-- A fault and its place: the line, and the bytes on that line up to it. -/
structure ReadError where
  fault : Fault
  line : Nat
  column : Nat
  deriving DecidableEq, Repr

def ReadError.message (e : ReadError) : String :=
  s!"{e.fault.message} at line {e.line} column {e.column}"

def Stop.locate (stop : Stop) (bytes : List UInt8) : ReadError :=
  let before := bytes.take (bytes.length - stop.unread)
  ⟨stop.fault, before.count 0x0A + 1, (before.reverse.takeWhile (· != 0x0A)).length⟩

/-- The value of a whole text. The first fault ends the reading. -/
def read (bytes : List UInt8) : Except ReadError Value :=
  let reading : Except Stop Value := do
    let (v, rest) ← valueAt maxDepth bytes
    match skipSpaces rest with
    | [] => return v
    | rest => stopNext .trailingCharacters rest
  reading.mapError (·.locate bytes)

end MetricBatch.Json
