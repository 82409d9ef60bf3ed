import MetricBatch.Json.Printer
import MetricBatch.Number.Reader
import MetricBatch.Results.Basic

namespace MetricBatch.Response

open Json

abbrev Check := Except ResponseError

def require {α : Type} (error : ResponseError) : Option α → Check α
  | some a => .ok a
  | none => .error error

def stringField (members : Dictionary Value) (path key : String) : Check String := do
  let v ← require (.missingField path) (members.get? key)
  require (.unexpectedType path "a string") v.string?

def objectField (members : Dictionary Value) (key : String) : Check (Dictionary Value) := do
  let v ← require (.missingField key) (members.get? key)
  require (.unexpectedType key "an object") v.object?

/-- A member that may be absent, or not a string. -/
def stringOr (members : Dictionary Value) (key default : String) : String :=
  ((members.get? key).bind Value.string?).getD default

def checkStatus (body : Dictionary Value) : Check Unit := do
  let status ← stringField body "status" "status"
  if status = "success" then return ()
  else if status = "error" then
    throw (.backendError (stringOr body "errorType" "unknown") (stringOr body "error" ""))
  else throw (.unknownStatus status)

/-- A pair of a number and of text that is a number too. -/
def sample (v : Value) : Check Sample :=
  match v with
  | .array [time, value] => do
    let t ← require (.invalidSample s!"timestamp {time.compact} is not a number") time.number?
    let x ← require (.invalidSample s!"value {value.compact} is not numeric")
      (value.string?.bind Binary64.ofText?)
    return ⟨t.toBinary64, x⟩
  | v => throw (.invalidSample v.compact)

/-- The labels of a series; one without any may leave them out. -/
def metric : Option Value → Check (Dictionary String)
  | none => .ok []
  | some v => do
    let members ← require (.unexpectedType "metric" "an object") v.object?
    let labels ← members.mapM fun (name, value) => do
      let value ← require (.unexpectedType "metric" "a map of string labels") value.string?
      return (name, value)
    return labels.foldr (fun (name, value) => Dictionary.put name value) []

/-- The samples of a matrix series. -/
def samples (v : Value) : Check (List Sample) := do
  let items ← require (.unexpectedType "values" "an array") v.array?
  items.mapM sample

/-- One entry of a list of series, whose samples are under a key. -/
def series (key : String) (read : Value → Check (List Sample)) (entry : Value) : Check Series := do
  let members ← require (.unexpectedType "data.result[]" "an object") entry.object?
  let labels ← metric (members.get? "metric")
  let v ← require (.missingField key) (members.get? key)
  return ⟨labels, ← read v⟩

def seriesList (key : String) (read : Value → Check (List Sample)) (result : Value) :
    Check (List Series) := do
  let entries ← require (.unexpectedType "data.result" "an array") result.array?
  entries.mapM (series key read)

def resultOf : ResultKind → Value → Check (List Series)
  | .vector, v => seriesList "value" (fun v => return [← sample v]) v
  | .matrix, v => seriesList "values" samples v
  | .scalar, v => return [⟨[], [← sample v]⟩]

end MetricBatch.Response

namespace MetricBatch.QueryResults

open Response in
/-- Requirements are checked in one order, and the first that does not hold is the error: the
response, its status, its data and their kind, then the series from left to right, each with its
labels before its samples. -/
def ofResponse (query : String) (response : Json.Value) : Except ResponseError QueryResults := do
  let body ← require .notAnObject response.object?
  checkStatus body
  let data ← objectField body "data"
  let name ← stringField data "data.resultType" "resultType"
  let kind ← require (.unsupportedResultType name) (ResultKind.ofName? name)
  let result ← require (.missingField "data.result") (data.get? "result")
  return ⟨query, some kind, ← resultOf kind result⟩

end MetricBatch.QueryResults
