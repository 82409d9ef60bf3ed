
namespace MetricBatch.Toml

/-- How a table came to be. -/
inductive Origin where
  /-- It has a header of its own, or is the document. -/
  | header
  /-- A longer header needed it. -/
  | implied
  /-- A key with dots needed it. -/
  | dotted
  /-- It stands in a value. -/
  | inline
  deriving DecidableEq, Repr

/-- The values of floating-point numbers, truth values and times are of no interest here. -/
inductive Value where
  | string (s : String)
  | integer (n : Int)
  | float
  | boolean
  | time
  | array (items : List Value)
  | table (origin : Origin) (entries : List (String × Value))
  /-- Tables with headers of one name. -/
  | tables (list : List (List (String × Value)))
  deriving Repr

abbrev Entries := List (String × Value)

namespace Entries

def get? (key : String) (t : Entries) : Option Value := List.lookup key t

def set (key : String) (v : Value) (t : Entries) : Entries :=
  (key, v) :: t.filter (·.1 != key)

/-- Changes the table at the end of a path. Tables that are not there yet are added. A path of a key
with dots does not enter a table that has a header; none enters a value. -/
def modifyAt (dotted : Bool) (change : Origin → Entries → Option Entries) :
    (path : List String) → Origin → Entries → Option Entries
  | [], origin, t => change origin t
  | key :: rest, _, t =>
    match t.get? key with
    | none => do
      let fresh := if dotted then Origin.dotted else .implied
      let inner ← modifyAt dotted change rest fresh []
      return t.set key (.table fresh inner)
    | some (.table origin inner) =>
      if origin = .inline || (dotted && origin = .header) then none
      else do
        let inner ← modifyAt dotted change rest origin inner
        return t.set key (.table origin inner)
    | some (.tables list) => do
      let inner ← modifyAt dotted change rest .header (list.getLastD [])
      return t.set key (.tables (list.dropLast ++ [inner]))
    | some _ => none

/-- Adds a value under a key with dots. The table that takes it has to be made by such keys only. -/
def insert (path : List String) (key : String) (v : Value) (t : Entries) : Option Entries :=
  let add (origin : Origin) (t : Entries) : Option Entries :=
    if (!path.isEmpty && origin != .dotted) || (t.get? key).isSome then none
    else some (t.set key v)
  modifyAt true add path .header t

/-- A table with a header may be started if there is none of its name, or an implied one. -/
def startTable (path : List String) (key : String) (t : Entries) : Option Entries :=
  let start (_ : Origin) (t : Entries) : Option Entries :=
    match t.get? key with
    | none => some (t.set key (.table .header []))
    | some (.table .implied inner) => some (t.set key (.table .header inner))
    | some _ => none
  modifyAt false start path .header t

/-- Starts one more of the tables of one name. -/
def startElement (path : List String) (key : String) (t : Entries) : Option Entries :=
  let start (_ : Origin) (t : Entries) : Option Entries :=
    match t.get? key with
    | none => some (t.set key (.tables [[]]))
    | some (.tables list) => some (t.set key (.tables (list ++ [[]])))
    | some _ => none
  modifyAt false start path .header t

end Entries

inductive Statement where
  /-- A key, whose last part is apart, and its value. -/
  | assign (path : List String) (key : String) (value : Value)
  | header (path : List String) (key : String)
  | element (path : List String) (key : String)
  deriving Repr

/-- Adds a statement to a document; the keys of a header's table are those up to the next header. -/
def addStatement (state : List String × Entries) : Statement → Option (List String × Entries)
  | .assign path key value => do
    let (place, document) := state
    let add (_ : Origin) (t : Entries) : Option Entries := t.insert path key value
    let document ← Entries.modifyAt false add place .header document
    return (place, document)
  | .header path key => do
    let document ← state.2.startTable path key
    return (path ++ [key], document)
  | .element path key => do
    let document ← state.2.startElement path key
    return (path ++ [key], document)

/-- A document is built statement by statement; a table remembers how it came to be, because that
decides what may still be added to it. -/
def document (statements : List Statement) : Option Entries :=
  (statements.foldlM addStatement ([], [])).map (·.2)

/-- The value of a table within braces. -/
def inlineTable (pairs : List (List String × String × Value)) : Option Value := do
  let entries ← pairs.foldlM (fun t (path, key, v) => Entries.insert path key v t) []
  return .table .inline entries

end MetricBatch.Toml
