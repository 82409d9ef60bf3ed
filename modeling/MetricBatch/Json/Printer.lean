import MetricBatch.Json.Value
import MetricBatch.Number.Shortest

namespace MetricBatch.Json

/-- Digits, with a point after the first one if there are more. -/
def pointAfterFirst : List Char → List Char
  | d :: e :: rest => d :: '.' :: e :: rest
  | digits => digits

def withoutTrailingZeros (digits : List Char) : List Char :=
  (digits.reverse.dropWhile (· == '0')).reverse

/-- From `0.00001` up to sixteen digits before the point a number is written in full, with `.0`
when it is whole; beyond that it has an exponent, always signed. -/
def decimalText (d : Decimal) : List Char :=
  let digits := Nat.toDigits 10 d.digits
  let lead := d.exponent + digits.length - 1
  if -5 ≤ lead && lead < 16 then
    if 0 ≤ d.exponent then d.plain ++ ['.', '0'] else d.plain
  else
    pointAfterFirst (withoutTrailingZeros digits) ++ 'e' :: (if lead < 0 then '-' else '+')
      :: Nat.toDigits 10 lead.natAbs

def realText (negative : Bool) (word : Nat) : List Char :=
  let body := decimalText (if word = 0 then ⟨0, 0⟩ else Decimal.shortest .even word)
  if negative then '-' :: body else body

def Number.text : Number → List Char
  | .whole n _ =>
    if n < 0 then '-' :: Nat.toDigits 10 n.natAbs else Nat.toDigits 10 n.natAbs
  | .real negative word _ => realText negative word

/-- One character of a string. -/
def escapeChar (c : Char) : List Char :=
  if c = '"' then ['\\', '"']
  else if c = '\\' then ['\\', '\\']
  else if c = '\n' then ['\\', 'n']
  else if c = '\r' then ['\\', 'r']
  else if c = '\t' then ['\\', 't']
  else if c = '\x08' then ['\\', 'b']
  else if c = '\x0c' then ['\\', 'f']
  else if c.toNat < 0x20 then
    ['\\', 'u', '0', '0', Nat.digitChar (c.toNat / 16), Nat.digitChar (c.toNat % 16)]
  else [c]

def stringText (s : String) : List Char := '"' :: s.toList.flatMap escapeChar ++ ['"']

namespace Value

mutual

def compactChars : Value → List Char
  | .null => "null".toList
  | .boolean b => if b then "true".toList else "false".toList
  | .number n => n.text
  | .string s => stringText s
  | .array items => '[' :: compactItems items ++ [']']
  | .object members => '\x7b' :: compactMembers members ++ ['\x7d']

def compactItems : List Value → List Char
  | [] => []
  | [v] => compactChars v
  | v :: rest => compactChars v ++ ',' :: compactItems rest

def compactMembers : List (String × Value) → List Char
  | [] => []
  | [(k, v)] => stringText k ++ ':' :: compactChars v
  | (k, v) :: rest => stringText k ++ ':' :: compactChars v ++ ',' :: compactMembers rest

end

/-- The start of a line at a depth. -/
def indent (depth : Nat) : List Char := '\n' :: List.replicate (2 * depth) ' '

mutual

/-- The text of a value whose own line starts at a depth; an empty container stays on it. -/
def prettyChars (depth : Nat) : Value → List Char
  | .null => "null".toList
  | .boolean b => if b then "true".toList else "false".toList
  | .number n => n.text
  | .string s => stringText s
  | .array items =>
    if items.isEmpty then ['[', ']']
    else '[' :: prettyItems (depth + 1) items ++ indent depth ++ [']']
  | .object members =>
    if members.isEmpty then ['\x7b', '\x7d']
    else '\x7b' :: prettyMembers (depth + 1) members ++ indent depth ++ ['\x7d']

def prettyItems (depth : Nat) : List Value → List Char
  | [] => []
  | [v] => indent depth ++ prettyChars depth v
  | v :: rest => indent depth ++ prettyChars depth v ++ ',' :: prettyItems depth rest

def prettyMembers (depth : Nat) : List (String × Value) → List Char
  | [] => []
  | [(k, v)] => indent depth ++ stringText k ++ ':' :: ' ' :: prettyChars depth v
  | (k, v) :: rest =>
    indent depth ++ stringText k ++ ':' :: ' ' :: prettyChars depth v
      ++ ',' :: prettyMembers depth rest

end

/-- The text of a value without any blanks. -/
def compact (v : Value) : String := String.ofList v.compactChars

/-- The text of a value with every element on a line of its own, two spaces deeper than its
container. -/
def pretty (v : Value) : String := String.ofList (v.prettyChars 0)

end Value

end MetricBatch.Json
