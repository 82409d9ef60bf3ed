import MetricBatch.Text.Utf8
import MetricBatch.Toml.Value

namespace MetricBatch.Toml

/-- The characters that are left. A reader gives what it read with the characters after it, or
nothing if the text is not as it should be. -/
abbrev Chars := List Char

def isSpace (c : Char) : Bool := c == ' ' || c == '\t'

def skipSpaces (cs : Chars) : Chars := cs.dropWhile isSpace

/-- Characters that a comment, and text between apostrophes, may hold. -/
def isText (c : Char) : Bool := c == '\t' || (0x20 ≤ c.toNat && c.toNat ≠ 0x7F)

def isBare (c : Char) : Bool := c.isAlphanum || c == '_' || c == '-'

def newline? : Chars → Option Chars
  | '\n' :: rest => some rest
  | '\r' :: '\n' :: rest => some rest
  | _ => none

/-- Blanks and a comment up to the end of the line. -/
def endLine (cs : Chars) : Option Chars :=
  let cs := skipSpaces cs
  let cs := if cs.head? = some '#' then cs.dropWhile isText else cs
  if cs.isEmpty then some [] else newline? cs

/-- Blanks, comments and line ends. -/
def skipLines : (turns : Nat) → Chars → Chars
  | 0, cs => cs
  | turns + 1, cs =>
    let rest := skipSpaces cs
    let rest := if rest.head? = some '#' then rest.dropWhile isText else rest
    match newline? rest with
    | some rest => skipLines turns rest
    | none => rest

def skipBlank (cs : Chars) : Chars := skipLines (cs.length + 1) cs

def hexValue? (c : Char) : Option Nat :=
  let n := c.toNat
  if 48 ≤ n && n ≤ 57 then some (n - 48)
  else if 65 ≤ n && n ≤ 70 then some (n - 55)
  else if 97 ≤ n && n ≤ 102 then some (n - 87)
  else none

/-- A character by its number in so many hexadecimal digits. -/
def numberedChar (digits : Nat) (cs : Chars) : Option (Char × Chars) := do
  if cs.length < digits then none
  let values ← (cs.take digits).mapM hexValue?
  let n := values.foldl (fun n d => n * 16 + d) 0
  if h : n.isValidChar then some (Char.ofNatAux n h, cs.drop digits) else none

/-- The character of an escape, after its backslash. -/
def escape : Chars → Option (Char × Chars)
  | 'b' :: rest => some ('\x08', rest)
  | 't' :: rest => some ('\t', rest)
  | 'n' :: rest => some ('\n', rest)
  | 'f' :: rest => some ('\x0c', rest)
  | 'r' :: rest => some ('\r', rest)
  | '"' :: rest => some ('"', rest)
  | '\\' :: rest => some ('\\', rest)
  | 'u' :: rest => numberedChar 4 rest
  | 'U' :: rest => numberedChar 8 rest
  | _ => none

/-- The rest of a string on one line. -/
def basicString : (turns : Nat) → Chars → Option (Chars × Chars)
  | 0, _ => none
  | _, [] => none
  | _ + 1, '"' :: rest => some ([], rest)
  | turns + 1, '\\' :: rest => do
    let (c, rest) ← escape rest
    let (more, rest) ← basicString turns rest
    return (c :: more, rest)
  | turns + 1, c :: rest =>
    if isText c then do
      let (more, rest) ← basicString turns rest
      return (c :: more, rest)
    else none

def literalString (cs : Chars) : Option (Chars × Chars) :=
  let content := cs.takeWhile fun c => isText c && c != '\''
  match cs.drop content.length with
  | '\'' :: rest => some (content, rest)
  | _ => none

/-- A backslash at the end of a line takes along all blanks and line ends after it. -/
def continuation? (cs : Chars) : Option Chars :=
  (newline? (skipSpaces cs)).map fun rest =>
    rest.dropWhile fun c => isSpace c || c == '\n' || c == '\r'

/-- The rest of a string over several lines. Up to two quotes stand for themselves, also in front of
the three that end it. -/
def longString (quote : Char) : (turns : Nat) → Chars → Option (Chars × Chars)
  | 0, _ => none
  | _, [] => none
  | turns + 1, c :: rest =>
    if c = quote then
      let run := (c :: rest).takeWhile (· == quote)
      let after := (c :: rest).drop run.length
      if run.length < 3 then do
        let (more, after) ← longString quote turns after
        return (run ++ more, after)
      else if run.length < 6 then some (run.drop 3, after)
      else none
    else if c = '\\' && quote == '"' then
      match continuation? rest with
      | some rest => longString quote turns rest
      | none => do
        let (c, rest) ← escape rest
        let (more, rest) ← longString quote turns rest
        return (c :: more, rest)
    else
      match newline? (c :: rest) with
      | some rest => do
        let (more, rest) ← longString quote turns rest
        return ('\n' :: more, rest)
      | none =>
        if isText c then do
          let (more, rest) ← longString quote turns rest
          return (c :: more, rest)
        else none

/-- A line end right after the opening quotes does not count. -/
def longStringAt (quote : Char) (cs : Chars) : Option (Chars × Chars) :=
  let cs := (newline? cs).getD cs
  longString quote (cs.length + 1) cs

def stringAt? (cs : Chars) : Option (Chars × Chars) :=
  match cs with
  | '"' :: '"' :: '"' :: rest => longStringAt '"' rest
  | '\'' :: '\'' :: '\'' :: rest => longStringAt '\'' rest
  | '"' :: rest => basicString (rest.length + 1) rest
  | '\'' :: rest => literalString rest
  | _ => none

def simpleKey (cs : Chars) : Option (String × Chars) :=
  match cs with
  | '"' :: rest => (basicString (rest.length + 1) rest).map fun (k, rest) => (.ofList k, rest)
  | '\'' :: rest => (literalString rest).map fun (k, rest) => (.ofList k, rest)
  | cs =>
    let bare := cs.takeWhile isBare
    if bare.isEmpty then none else some (.ofList bare, cs.drop bare.length)

/-- The parts of a key, with blanks around each. -/
def keyParts : (turns : Nat) → Chars → Option (List String × Chars)
  | 0, _ => none
  | turns + 1, cs => do
    let (part, rest) ← simpleKey (skipSpaces cs)
    match skipSpaces rest with
    | '.' :: rest =>
      let (more, rest) ← keyParts turns rest
      return (part :: more, rest)
    | rest => return ([part], rest)

/-- Keys have fewer parts, and values fewer layers, than this. -/
def maxDepth : Nat := 80

/-- A key, its last part apart. -/
def key (cs : Chars) : Option ((List String × String) × Chars) := do
  let (parts, rest) ← keyParts (cs.length + 1) cs
  if maxDepth ≤ parts.length then none
  else return ((parts.dropLast, parts.getLastD ""), rest)

/-- Digits with single underscores between them. -/
def digitRun (isDigit : Char → Bool) : Chars → Option (Chars × Chars)
  | [] => none
  | c :: rest =>
    if isDigit c then
      match rest with
      | '_' :: rest => (digitRun isDigit rest).map fun (more, rest) => (c :: more, rest)
      | rest =>
        match digitRun isDigit rest with
        | some (more, rest) => some (c :: more, rest)
        | none => if (rest.head?.map isDigit).getD false then none else some ([c], rest)
    else none

def valueIn (base : Nat) (cs : Chars) : Nat :=
  cs.foldl (fun n c => n * base + (hexValue? c).getD 0) 0

def isHex (c : Char) : Bool := (hexValue? c).isSome

def maxInteger : Nat := Nat.pow 2 63 - 1

/-- An integer after the mark of its base. -/
def basedInteger (base : Nat) (isDigit : Char → Bool) (cs : Chars) : Option (Value × Chars) := do
  let (digits, rest) ← digitRun isDigit cs
  let n := valueIn base digits
  if maxInteger < n then none else return (.integer n, rest)

def splitSign : Chars → Bool × Chars
  | '+' :: rest => (false, rest)
  | '-' :: rest => (true, rest)
  | cs => (false, cs)

/-- The whole part of a number: a zero stands alone. -/
def wholeDigits (cs : Chars) : Option (Chars × Chars) :=
  match cs with
  | '0' :: rest => some (['0'], rest)
  | cs => digitRun Char.isDigit cs

/-- The exponent of a number, if it has one. -/
def exponentDigits (cs : Chars) : Option (Option Int × Chars) :=
  match cs with
  | mark :: rest =>
    if mark = 'e' || mark = 'E' then do
      let (negative, rest) := splitSign rest
      let (digits, rest) ← digitRun Char.isDigit rest
      let n : Int := valueIn 10 digits
      return (some (if negative then -n else n), rest)
    else some (none, cs)
  | [] => some (none, [])

/-- The largest finite floating-point number and half a step more; what is not below it is too large
to be one. -/
def floatLimit : Nat := Nat.pow 2 1024 - Nat.pow 2 970

/-- Whether the decimal is a finite floating-point number when rounded. -/
def isFinite (digits : Chars) (exponent : Int) : Bool :=
  let n := valueIn 10 digits
  if n = 0 then true
  else if 400 < exponent then false
  else if 0 ≤ exponent then n * Nat.pow 10 exponent.toNat < floatLimit
  else if digits.length < exponent.natAbs then true
  else n < floatLimit * Nat.pow 10 exponent.natAbs

/-- A number without the mark of a base. One that is too large is refused; one that is too far below
zero counts as infinite. -/
def decimalNumber (cs : Chars) : Option (Value × Chars) := do
  let (negative, cs) := splitSign cs
  match cs with
  | 'i' :: 'n' :: 'f' :: rest => return (.float, rest)
  | 'n' :: 'a' :: 'n' :: rest => return (.float, rest)
  | cs =>
    let (whole, rest) ← wholeDigits cs
    match rest with
    | '.' :: rest =>
      let (fraction, rest) ← digitRun Char.isDigit rest
      let (exponent, rest) ← exponentDigits rest
      if negative || isFinite (whole ++ fraction) (exponent.getD 0 - fraction.length) then
        return (.float, rest)
      else none
    | rest =>
      let (exponent, rest) ← exponentDigits rest
      match exponent with
      | some e => if negative || isFinite whole e then return (.float, rest) else none
      | none =>
        let n := valueIn 10 whole
        if n ≤ maxInteger || (negative && n = maxInteger + 1) then
          return (.integer (if negative then -n else n), rest)
        else none

def numberAt (cs : Chars) : Option (Value × Chars) :=
  match cs with
  | '0' :: 'x' :: rest => basedInteger 16 isHex rest
  | '0' :: 'o' :: rest => basedInteger 8 (fun c => '0' ≤ c && c ≤ '7') rest
  | '0' :: 'b' :: rest => basedInteger 2 (fun c => c == '0' || c == '1') rest
  | cs => decimalNumber cs

/-- A number of just so many digits, up to a bound. -/
def fixedNumber (digits low high : Nat) (cs : Chars) : Option (Nat × Chars) :=
  let ds := cs.take digits
  if ds.length = digits && ds.all Char.isDigit then
    let n := valueIn 10 ds
    if low ≤ n && n ≤ high then some (n, cs.drop digits) else none
  else none

def expect (c : Char) : Chars → Option Chars
  | d :: rest => if d = c then some rest else none
  | [] => none

def daysIn (year month : Nat) : Nat :=
  let leap := year % 4 = 0 && (year % 100 ≠ 0 || year % 400 = 0)
  if month = 2 then if leap then 29 else 28
  else if [4, 6, 9, 11].contains month then 30 else 31

def dateAt (cs : Chars) : Option Chars := do
  let (year, cs) ← fixedNumber 4 0 9999 cs
  let (month, cs) ← fixedNumber 2 1 12 (← expect '-' cs)
  let (_, cs) ← fixedNumber 2 1 (daysIn year month) (← expect '-' cs)
  return cs

def timeAt (cs : Chars) : Option Chars := do
  let (_, cs) ← fixedNumber 2 0 23 cs
  let (_, cs) ← fixedNumber 2 0 59 (← expect ':' cs)
  let (_, cs) ← fixedNumber 2 0 60 (← expect ':' cs)
  match cs with
  | '.' :: rest =>
    if (rest.head?.map Char.isDigit).getD false then return rest.dropWhile Char.isDigit else none
  | cs => return cs

/-- The difference of a time from universal time, if it is given. -/
def offsetAt (cs : Chars) : Option Chars :=
  match cs with
  | c :: rest =>
    if c = 'Z' || c = 'z' then some rest
    else if c = '+' || c = '-' then do
      let (_, cs) ← fixedNumber 2 0 23 rest
      let (_, cs) ← fixedNumber 2 0 59 (← expect ':' cs)
      return cs
    else some (c :: rest)
  | [] => some []

/-- Whether a blank in front of a time belongs to it. -/
def startsTime (cs : Chars) : Bool :=
  ((fixedNumber 2 0 23 cs).bind fun (_, rest) => expect ':' rest).isSome

def dateTimeAt (cs : Chars) : Option (Value × Chars) := do
  let cs ← dateAt cs
  match cs with
  | c :: rest =>
    if (c = 'T' || c = 't' || c = ' ') && startsTime rest then
      return (.time, ← offsetAt (← timeAt rest))
    else return (.time, cs)
  | [] => return (.time, [])

/-- A time of day or a date starts with digits and a colon or a hyphen; anything else is a number.
-/
def clockAt (cs : Chars) : Option (Value × Chars) :=
  let digits := (cs.takeWhile Char.isDigit).length
  if digits = 0 then numberAt cs
  else
    match cs.drop digits with
    | ':' :: _ => (timeAt cs).map (Value.time, ·)
    | '-' :: _ => dateTimeAt cs
    | _ => numberAt cs

/-- The elements of an array up to its bracket; a comma may follow the last one. -/
def elements (value : Chars → Option (Value × Chars)) : (turns : Nat) → Chars →
    Option (List Value × Chars)
  | 0, _ => none
  | turns + 1, cs =>
    match skipBlank cs with
    | ']' :: rest => some ([], rest)
    | cs => do
      let (v, rest) ← value cs
      match skipBlank rest with
      | ',' :: rest =>
        let (more, rest) ← elements value turns rest
        return (v :: more, rest)
      | ']' :: rest => return ([v], rest)
      | _ => none

/-- A key with its value, and the blanks around both. -/
def pair (value : Chars → Option (Value × Chars)) (cs : Chars) :
    Option ((List String × String × Value) × Chars) := do
  let ((path, name), rest) ← key cs
  let (v, rest) ← value (skipSpaces (← expect '=' rest))
  return ((path, name, v), skipSpaces rest)

/-- The pairs of a table within braces, at least one. -/
def pairs (value : Chars → Option (Value × Chars)) : (turns : Nat) → Chars →
    Option (List (List String × String × Value) × Chars)
  | 0, _ => none
  | turns + 1, cs => do
    let (p, rest) ← pair value cs
    match rest with
    | ',' :: rest =>
      let (more, rest) ← pairs value turns rest
      return (p :: more, rest)
    | '\x7d' :: rest => return ([p], rest)
    | _ => none

/-- A value of fewer than so many layers. -/
def valueAt (depth : Nat) (cs : Chars) : Option (Value × Chars) :=
  match cs with
  | '[' :: rest =>
    match depth with
    | 0 => none
    | depth + 1 =>
      (elements (valueAt depth) (rest.length + 1) rest).map fun (vs, rest) => (.array vs, rest)
  | '\x7b' :: rest =>
    match depth with
    | 0 => none
    | depth + 1 =>
      match skipSpaces rest with
      | '\x7d' :: rest => some (.table .inline [], rest)
      | rest => do
        let (ps, rest) ← pairs (valueAt depth) (rest.length + 1) rest
        return (← inlineTable ps, rest)
  | 't' :: 'r' :: 'u' :: 'e' :: rest => some (.boolean, rest)
  | 'f' :: 'a' :: 'l' :: 's' :: 'e' :: rest => some (.boolean, rest)
  | c :: _ =>
    if c = '"' || c = '\'' then
      (stringAt? cs).map fun (s, rest) => (.string (.ofList s), rest)
    else clockAt cs
  | [] => none

/-- A header between its brackets, which come in a pair for an element. -/
def headerAt (cs : Chars) : Option (Statement × Chars) :=
  match cs with
  | '[' :: '[' :: rest => do
    let ((path, name), rest) ← key rest
    return (.element path name, ← endLine (← expect ']' (← expect ']' rest)))
  | '[' :: rest => do
    let ((path, name), rest) ← key rest
    return (.header path name, ← endLine (← expect ']' rest))
  | _ => none

def statementAt (cs : Chars) : Option (Statement × Chars) :=
  if cs.head? = some '[' then headerAt cs
  else do
    let ((path, name, v), rest) ← pair (valueAt (maxDepth - 1)) cs
    return (.assign path name v, ← endLine rest)

def statements : (turns : Nat) → Chars → Option (List Statement)
  | 0, _ => none
  | turns + 1, cs =>
    match skipBlank cs with
    | [] => some []
    | cs => do
      let (s, rest) ← statementAt cs
      return s :: (← statements turns rest)

/-- The document of a text, which may start with a byte order mark. -/
def read (text : String) : Option Entries := do
  let cs := text.toList
  let cs := if cs.head? = some '\uFEFF' then cs.drop 1 else cs
  document (← statements (cs.length + 1) cs)

end MetricBatch.Toml
