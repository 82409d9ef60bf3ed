import MetricBatch.Dictionary
import MetricBatch.Number.Binary64
import MetricBatch.Results.ResponseError

namespace MetricBatch

inductive ResultKind where
  /-- One sample for each series. -/
  | vector
  /-- Many samples for each series. -/
  | matrix
  /-- A single sample without labels. -/
  | scalar
  deriving DecidableEq, Repr

def ResultKind.name : ResultKind → String
  | .vector => "vector"
  | .matrix => "matrix"
  | .scalar => "scalar"

def ResultKind.ofName? : String → Option ResultKind
  | "vector" => some .vector
  | "matrix" => some .matrix
  | "scalar" => some .scalar
  | _ => none

structure Sample where
  /-- Seconds since 1970. -/
  timestamp : Binary64
  value : Binary64
  deriving DecidableEq, Repr

structure Series where
  metric : Dictionary String
  values : List Sample
  deriving DecidableEq, Repr

/-- The results of one query, with the series in the order of the backend. -/
structure QueryResults where
  query : String
  /-- Absent in the placeholder of a query that failed. -/
  kind : Option ResultKind
  series : List Series
  deriving DecidableEq, Repr

namespace Series

def label (s : Series) (name : String) : Except ResponseError String :=
  match s.metric.get? name with
  | some value => .ok value
  | none => .error (.missingLabel name)

/-- What is in front of the names of exported labels. -/
def exportMark : List Char := "label_".toList

/-- The name of an exported label without its mark. -/
def exportedName? (name : String) : Option String :=
  if exportMark.isPrefixOf name.toList then
    some (String.ofList (name.toList.drop exportMark.length))
  else none

/-- The exported labels under their own names. -/
def labels (s : Series) : Dictionary String :=
  Dictionary.ofList (s.metric.filterMap fun (name, value) => (exportedName? name).map (·, value))

end Series

namespace QueryResults

/-- What a query that failed publishes. -/
def placeholder (query : String) : QueryResults := ⟨query, none, []⟩

def isEmpty (r : QueryResults) : Bool := r.series.isEmpty

end QueryResults

end MetricBatch
