import MetricBatch.Json.Printer

namespace MetricBatch.Json

/-- JSON as the grammar has it. A number is what is written for it, so that nothing is rounded, and
the members of an object keep their order. -/
inductive Tree where
  | null
  | boolean (b : Bool)
  | number (literal : String)
  | string (s : String)
  | array (items : List Tree)
  | object (members : List (String × Tree))
  deriving Repr

namespace Tree

/-- A member of an object; other values have none. -/
def member? (key : String) : Tree → Option Tree
  | .object members => members.lookup key
  | _ => none

def isNull : Tree → Bool
  | .null => true
  | _ => false

/-- Digits, and what may follow them. -/
def isDigitsThen (next : List Char → Bool) (cs : List Char) : Bool :=
  !(cs.takeWhile Char.isDigit).isEmpty && next (cs.dropWhile Char.isDigit)

def isExponent : List Char → Bool
  | [] => true
  | mark :: rest =>
    (mark == 'e' || mark == 'E') &&
      match rest with
      | '+' :: digits | '-' :: digits | digits => isDigitsThen List.isEmpty digits

def isFraction : List Char → Bool
  | '.' :: rest => isDigitsThen isExponent rest
  | rest => isExponent rest

/-- A zero in front stands alone. -/
def isMagnitude : List Char → Bool
  | '0' :: rest => isFraction rest
  | rest => isDigitsThen isFraction rest

def isNumeral : List Char → Bool
  | '-' :: rest => isMagnitude rest
  | rest => isMagnitude rest

/-- What numbers and names are made of. -/
def isWordChar (c : Char) : Bool := c.isAlphanum || c == '+' || c == '-' || c == '.'

def ofWord? (word : List Char) : Option Tree :=
  if isNumeral word then some (.number (String.ofList word))
  else if word = "null".toList then some .null
  else if word = "true".toList then some (.boolean true)
  else if word = "false".toList then some (.boolean false)
  else none

def hexDigit? (c : Char) : Option Nat :=
  if c.isDigit then some (c.toNat - '0'.toNat)
  else if 'a' ≤ c && c ≤ 'f' then some (c.toNat - 'a'.toNat + 10)
  else if 'A' ≤ c && c ≤ 'F' then some (c.toNat - 'A'.toNat + 10)
  else none

/-- The character of an escape of two characters. -/
def escaped? : Char → Option Char
  | '"' => some '"'
  | '\\' => some '\\'
  | '/' => some '/'
  | 'b' => some '\x08'
  | 'f' => some '\x0c'
  | 'n' => some '\n'
  | 'r' => some '\r'
  | 't' => some '\t'
  | _ => none

/-- The code points of a string up to its closing quote, some of which may be surrogates. -/
def codePoints : List Char → Option (List Nat × List Char)
  | [] => none
  | '"' :: rest => some ([], rest)
  | '\\' :: 'u' :: h₃ :: h₂ :: h₁ :: h₀ :: rest => do
    let n := (((← hexDigit? h₃) * 16 + (← hexDigit? h₂)) * 16 + (← hexDigit? h₁)) * 16
      + (← hexDigit? h₀)
    (codePoints rest).map fun (more, rest) => (n :: more, rest)
  | '\\' :: e :: rest => do
    let c ← escaped? e
    (codePoints rest).map fun (more, rest) => (c.toNat :: more, rest)
  | c :: rest =>
    if c.toNat < 0x20 || c == '\\' then none
    else (codePoints rest).map fun (more, rest) => (c.toNat :: more, rest)
termination_by structural cs => cs

/-- Surrogates come in pairs. -/
def characters : List Nat → Option (List Char)
  | [] => some []
  | n :: rest =>
    if n < 0xD800 || 0xDFFF < n then (characters rest).map (Char.ofNat n :: ·)
    else
      match rest with
      | low :: rest =>
        if n < 0xDC00 && 0xDC00 ≤ low && low ≤ 0xDFFF then
          (characters rest).map
            (Char.ofNat (0x10000 + (n - 0xD800) * 0x400 + (low - 0xDC00)) :: ·)
        else none
      | [] => none
termination_by structural points => points

/-- A string after its opening quote. -/
def string? (cs : List Char) : Option (String × List Char) := do
  let (points, rest) ← codePoints cs
  return (String.ofList (← characters points), rest)

def isBlank (c : Char) : Bool := c == ' ' || c == '\n' || c == '\r' || c == '\t'

def skipBlanks (cs : List Char) : List Char := cs.dropWhile isBlank

section

variable {α : Type} (item : List Char → Option (α × List Char)) (close : Char)

/-- At least one item, a comma before each but the first, up to the closing character. -/
def separated : (turns : Nat) → List Char → Option (List α × List Char)
  | 0, _ => none
  | turns + 1, cs => do
    let (a, rest) ← item cs
    match skipBlanks rest with
    | c :: rest =>
      if c = close then some ([a], rest)
      else if c = ',' then (separated turns rest).map fun (more, rest) => (a :: more, rest)
      else none
    | [] => none

/-- The items of a container after its opening character. -/
def contents (turns : Nat) (cs : List Char) : Option (List α × List Char) :=
  match skipBlanks cs with
  | c :: rest => if c = close then some ([], rest) else separated item close turns cs
  | [] => none

end

/-- A key, a colon and a value. -/
def pair? (value : List Char → Option (Tree × List Char)) (cs : List Char) :
    Option ((String × Tree) × List Char) :=
  match skipBlanks cs with
  | '"' :: rest => do
    let (key, rest) ← string? rest
    match skipBlanks rest with
    | ':' :: rest => (value rest).map fun (t, rest) => ((key, t), rest)
    | _ => none
  | _ => none

/-- A value in which there are fewer containers inside each other, and fewer items in each, than
there are turns. -/
def value? : (turns : Nat) → List Char → Option (Tree × List Char)
  | 0, _ => none
  | turns + 1, cs =>
    match skipBlanks cs with
    | '"' :: rest => (string? rest).map fun (s, rest) => (.string s, rest)
    | '[' :: rest => (contents (value? turns) ']' turns rest).map fun (ts, rest) => (.array ts, rest)
    | '\x7b' :: rest =>
      (contents (pair? (value? turns)) '\x7d' turns rest).map fun (ts, rest) => (.object ts, rest)
    | rest => (ofWord? (rest.takeWhile isWordChar)).map (·, rest.dropWhile isWordChar)

/-- Values one after the other, up to the end. -/
def values? : (turns : Nat) → List Char → Option (List Tree)
  | 0, _ => none
  | turns + 1, cs =>
    if (skipBlanks cs).isEmpty then some []
    else do
      let (t, rest) ← value? cs.length cs
      return t :: (← values? turns rest)

/-- The values in a text, of which there may be any number. -/
def readAll (text : String) : Option (List Tree) := values? (text.toList.length + 1) text.toList

/-- The value of a whole text. No faults are told apart: a text is JSON, or it is not. -/
def read (text : String) : Option Tree :=
  match readAll text with
  | some [t] => some t
  | _ => none

end Tree

namespace Value

mutual

/-- What a reader makes of a value. -/
def tree : Value → Tree
  | .null => .null
  | .boolean b => .boolean b
  | .number n => .number (String.ofList n.text)
  | .string s => .string s
  | .array items => .array (itemTrees items)
  | .object members => .object (memberTrees members)

def itemTrees : List Value → List Tree
  | [] => []
  | v :: rest => v.tree :: itemTrees rest

def memberTrees : List (String × Value) → List (String × Tree)
  | [] => []
  | (k, v) :: rest => (k, v.tree) :: memberTrees rest

end

end Value

end MetricBatch.Json
