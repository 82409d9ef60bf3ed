import MetricBatch.Url.Idna.Tables

namespace MetricBatch.Url.Idna

def combiningClass (n : Nat) : Nat := valueIn combiningClasses 0 n

/-- A Korean syllable as its letters. -/
def syllableLetters (n : Nat) : List Nat :=
  let i := n - 0xAC00
  let final := i % 28
  [0x1100 + i / 588, 0x1161 + i % 588 / 28] ++ if final = 0 then [] else [0x11A7 + final]

def parts? (n : Nat) : Option (Nat × Nat) :=
  composed.findSome? fun
    | [a, b, c] => if c = n then some (a, b) else none
    | _ => none

/-- A composed character has at most four layers. -/
def decompose : (layers : Nat) → Nat → List Nat
  | 0, n => [n]
  | layers + 1, n =>
    if 0xAC00 ≤ n && n ≤ 0xD7A3 then syllableLetters n
    else
      match parts? n with
      | some (a, b) => decompose layers a ++ [b]
      | none => [n]

/-- Puts a mark among the marks after it. -/
def insertMark (n : Nat) : List Nat → List Nat
  | [] => [n]
  | m :: rest =>
    if combiningClass m ≠ 0 && combiningClass m < combiningClass n then m :: insertMark n rest
    else n :: m :: rest

def pair? (a b : Nat) : Option Nat :=
  if 0x1100 ≤ a && a < 0x1113 && 0x1161 ≤ b && b < 0x1176 then
    some (0xAC00 + ((a - 0x1100) * 21 + (b - 0x1161)) * 28)
  else if 0xAC00 ≤ a && a ≤ 0xD7A3 && (a - 0xAC00) % 28 == 0 && 0x11A8 ≤ b && b < 0x11C3 then
    some (a + (b - 0x11A7))
  else composed.findSome? fun
    | [x, y, c] => if x = a && y = b then some c else none
    | _ => none

/-- Joins characters to the starter before them. The marks that stay between them, the last one
first, hold back those of no higher class. -/
def composeFrom (starter : Nat) (marks : List Nat) : List Nat → List Nat
  | [] => starter :: marks.reverse
  | n :: rest =>
    let free :=
      match marks with
      | [] => true
      | m :: _ => combiningClass m < combiningClass n
    match if free then pair? starter n else none with
    | some joined => composeFrom joined marks rest
    | none =>
      if combiningClass n = 0 then starter :: marks.reverse ++ composeFrom n [] rest
      else composeFrom starter (n :: marks) rest

def compose : List Nat → List Nat
  | [] => []
  | n :: rest => if combiningClass n = 0 then composeFrom n [] rest else n :: compose rest

/-- The composed form of a text: characters are taken apart, marks are put in the order of their
classes, and what composes with a character before it is joined to it again. -/
def normalize (points : List Nat) : List Nat :=
  compose ((points.flatMap (decompose 4)).foldr insertMark [])

end MetricBatch.Url.Idna
