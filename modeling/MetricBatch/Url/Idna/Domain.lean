import MetricBatch.Text.Utf8
import MetricBatch.Url.Form
import MetricBatch.Url.Idna.Composition
import MetricBatch.Url.Idna.Punycode

namespace MetricBatch.Url.Idna

/-- ASCII characters that no domain name has. -/
def isForbidden (c : Char) : Bool :=
  c.toNat ≤ 0x20 || c.toNat == 0x7F || "%#/:<>?@[\\]^|".toList.contains c

/-- The replacement by a row of the table, if it has the code point. -/
def replacement? (n : Nat) : List Nat → Option Nat
  | [a, b] => if n = a then some b else none
  | [low, high, step, first] =>
    if low ≤ n && n ≤ high && (n - low) % step == 0 then some (first + (n - low)) else none
  | _ => none

/-- What a code point becomes; disallowed ones have nothing to become. -/
def mapPoint (n : Nat) : Option (List Nat) :=
  if n < 0x80 then some [if 0x41 ≤ n && n ≤ 0x5A then n + 32 else n]
  else if inRows disallowed n then none
  else if inRows ignored n then some []
  else
    match replaced.findSome? (replacement? n) with
    | some m => some [m]
    | none => some (((expanded.find? (·.head? == some n)).map (·.drop 1)).getD [n])

def mapPoints (points : List Nat) : Option (List Nat) := (points.mapM mapPoint).map List.flatten

inductive Direction where
  | left | right | arabicLetter | arabicNumber | number | separator | commonSeparator | terminator
  | neutral | boundary | mark
  deriving DecidableEq, Repr

def directionOrder : List Direction :=
  [.left, .right, .arabicLetter, .arabicNumber, .number, .separator, .commonSeparator, .terminator,
    .neutral, .boundary, .mark]

def direction (n : Nat) : Direction := directionOrder.getD (valueIn directions 0 n) .left

/-- The last direction of a label, marks left aside. -/
def lastDirection (ds : List Direction) : Option Direction :=
  (ds.reverse.dropWhile (· == .mark)).head?

/-- Whether a label reads in one direction from end to end. -/
def isDirected (label : List Nat) : Bool :=
  let ds := label.map direction
  let common : List Direction :=
    [.number, .separator, .commonSeparator, .terminator, .neutral, .boundary, .mark]
  match ds with
  | [] => true
  | .left :: _ =>
    ds.all (fun d => d == .left || common.contains d)
      && [some .left, some .number].contains (lastDirection ds)
  | d :: _ =>
    (d == .right || d == .arabicLetter)
      && ds.all (fun d => [.right, .arabicLetter, .arabicNumber].contains d || common.contains d)
      && [some .right, some .arabicLetter, some .number, some .arabicNumber].contains
        (lastDirection ds)
      && !(ds.contains .number && ds.contains .arabicNumber)

def hasRightToLeft (label : List Nat) : Bool :=
  label.any fun n => [Direction.right, .arabicLetter, .arabicNumber].contains (direction n)

def isVirama (n : Nat) : Bool := combiningClass n == 9

/-- Joiners stand after a virama; the one that keeps letters apart may also stand between letters
that would join. -/
def joinersFit (before : List Nat) : List Nat → Bool
  | [] => true
  | n :: rest =>
    let afterVirama := (before.head?.map isVirama).getD false
    let opens :=
      ((before.dropWhile (inRows transparent)).head?.map fun m =>
        inRows joinsBoth m || inRows joinsLeft m).getD false
    let closes :=
      ((rest.dropWhile (inRows transparent)).head?.map fun m =>
        inRows joinsBoth m || inRows joinsRight m).getD false
    let fits :=
      if n = 0x200D then afterVirama
      else if n = 0x200C then afterVirama || (opens && closes)
      else true
    fits && joinersFit (n :: before) rest

def isValidLabel (label : List Nat) : Bool :=
  !(label.head?.map (inRows marks)).getD false && joinersFit [] label

def isAscii (label : List Nat) : Bool := label.all (· < 0x80)

def toChars (points : List Nat) : List Char := points.map Char.ofNat

def mark : List Char := "xn--".toList

/-- The most that is read or written in Punycode. -/
def maxEncoded : Nat := 2000

def maxPlain : Nat := 1000

/-- The label that a label stands for. One that looks like an ASCII form has to be one. -/
def plainLabel? (label : List Nat) : Option (List Nat) :=
  let cs := toChars label
  if mark.isPrefixOf cs then
    if !isAscii label || maxEncoded < cs.length then none
    else do
      let plain ← (Punycode.decode? (cs.drop mark.length)).map (·.map Char.toNat)
      if isAscii plain || (mapPoints plain).map normalize != some plain then none else some plain
  else some label

/-- The ASCII form of a label. -/
def asciiLabel? (label : List Nat) : Option (List Char) :=
  if isAscii label then some (toChars label)
  else if maxPlain < label.length then none
  else some (mark ++ Punycode.encode (toChars label))

/-- The parts of a list between full stops. -/
def labels (points : List Nat) : List (List Nat) :=
  (Form.split '.' (toChars points)).map (·.map Char.toNat)

/-- The ASCII form of a domain name. Letters become small, compatible characters become one, and a
label with characters past ASCII is written in Punycode behind `xn--`. -/
def ascii? (name : List Char) : Option (List Char) := do
  let mapped ← mapPoints (name.map Char.toNat)
  let parts := labels (if isAscii mapped then mapped else normalize mapped)
  let plain ← parts.mapM plainLabel?
  let turned := plain.any hasRightToLeft
  let fine (label : List Nat) : Bool :=
    isValidLabel label && (!turned || isDirected label) && !(toChars label).any isForbidden
  if plain.all fine then
    return List.intercalate ['.'] (← parts.mapM asciiLabel?)
  else none

/-- The ASCII form of a name given by its bytes. -/
def domain? (bytes : List UInt8) : Option (List Char) := (Text.Utf8.decode? bytes).bind ascii?

end MetricBatch.Url.Idna
