import MetricBatch.Json.Printer
import MetricBatch.Results.Basic

namespace MetricBatch

open Json

/-- The text of a sample's value. It is text, so that the values that JSON numbers cannot hold are
kept. -/
def Sample.valueText : Binary64 → String
  | .nan => "NaN"
  | .infinite negative => if negative then "-Inf" else "+Inf"
  | x => x.text

def Sample.document (s : Sample) : Value :=
  let timestamp := ((Number.ofBinary64? s.timestamp).map Value.number).getD .null
  .object [("timestamp", timestamp), ("value", .string (valueText s.value))]

def Series.document (s : Series) : Value :=
  .object [
    ("metric", .object (s.metric.map fun (name, value) => (name, .string value))),
    ("values", .array (s.values.map Sample.document))]

def QueryResults.document (r : QueryResults) : Value :=
  .object [
    ("query", .string r.query),
    ("result_type", (r.kind.map fun k => Value.string k.name).getD .null),
    ("results", .array (r.series.map Series.document))]

/-- The text of the document: on one line, or with its elements on lines of their own. -/
def QueryResults.render (r : QueryResults) (pretty : Bool) : String :=
  if pretty then r.document.pretty else r.document.compact

end MetricBatch
