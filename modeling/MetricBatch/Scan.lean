import MetricBatch.Text.Blank

namespace MetricBatch.Scan

open Text

/-- The first line and what is behind its end. A carriage return in front of a line end belongs to
it. -/
def cutLine : List Char → List Char × Option (List Char)
  | [] => ([], none)
  | '\n' :: rest => ([], some rest)
  | '\r' :: '\n' :: rest => ([], some rest)
  | c :: rest =>
    let (line, rest) := cutLine rest
    (c :: line, rest)

/-- The lines of a text; there is none behind the last line end. -/
def linesIn : (turns : Nat) → List Char → List (List Char)
  | 0, _ => []
  | _, [] => []
  | turns + 1, cs =>
    match cutLine cs with
    | (line, none) => [line]
    | (line, some rest) => line :: linesIn turns rest

def lines (source : String) : List (List Char) :=
  linesIn source.toList.length source.toList

/-- The line in front of an item that is compiled for tests only. -/
def isGate (line : List Char) : Bool := trim line == "#[cfg(test)]".toList

def isComment (line : List Char) : Bool := "//".toList.isPrefixOf (trim line)

/-- The line with which the test module starts. -/
def opensTests (line : List Char) : Bool := "mod tests".toList.isPrefixOf (trim line)

/-- The production lines from a line number on. A gate takes the line behind it along, or ends the
scan if the test module starts there. -/
def productionFrom (number : Nat) : List (List Char) → List (Nat × List Char)
  | [] => []
  | line :: rest =>
    if isGate line then
      match rest with
      | [] => []
      | next :: rest => if opensTests next then [] else productionFrom (number + 2) rest
    else if isComment line then productionFrom (number + 1) rest
    else (number, line) :: productionFrom (number + 1) rest

/-- The production lines of a source with their numbers, counted from one: no comments, no items
that are compiled for tests only, and nothing from the test module on. -/
def productionLines (source : String) : List (Nat × String) :=
  (productionFrom 1 (lines source)).map fun (n, line) => (n, String.ofList line)

/-- A line that breaks a rule. -/
structure Violation where
  path : String
  line : Nat
  text : String
  deriving DecidableEq, Repr

def Violation.message (v : Violation) : String := s!"{v.path}:{v.line}: {v.text}"

/-- Whether a text stands anywhere in a line. -/
def occurs (pattern : List Char) : List Char → Bool
  | [] => pattern.isEmpty
  | c :: rest => pattern.isPrefixOf (c :: rest) || occurs pattern rest

/-- The production lines of one source with a pattern in them, without the blanks at their ends. -/
def violationsIn (patterns : List String) (path source : String) : List Violation :=
  (productionLines source).filterMap fun (number, line) =>
    if patterns.any fun pattern => occurs pattern.toList line.toList then
      some ⟨path, number, String.ofList (trim line.toList)⟩
    else none

/-- What breaks the rules in some files, each a path and a source. -/
def violations (patterns : List String) (files : List (String × String)) : List Violation :=
  files.flatMap fun (path, source) => violationsIn patterns path source

end MetricBatch.Scan
