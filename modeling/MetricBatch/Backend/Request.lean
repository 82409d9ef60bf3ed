import MetricBatch.Time.Moment
import MetricBatch.Url.Basic

namespace MetricBatch

/-- The window and the resolution of a range query. -/
structure QueryRange where
  start : Moment
  finish : Moment
  step : Span
  deriving DecidableEq, Repr

/-- A query over a range, or at a single instant. -/
structure Query where
  text : String
  range : Option QueryRange
  deriving DecidableEq, Repr

namespace Backend

structure Request where
  method : String
  url : Url
  deriving DecidableEq, Repr

def Request.post (url : Url) : Request := ⟨"POST", url⟩

end Backend

namespace Query

def instantPath : String := "/api/v1/query"

def rangePath : String := "/api/v1/query_range"

def path (q : Query) : String := if q.range.isSome then rangePath else instantPath

def parameters (q : Query) : List (String × String) :=
  ("query", q.text) ::
    match q.range with
    | none => []
    | some r =>
      [("start", r.start.text), ("end", r.finish.text), ("step", r.step.secondsText)]

/-- The request for a query, given the URLs of the backend's paths. Every parameter stands in the
query string, and there is no body. -/
def request (q : Query) (url : String → Url) : Backend.Request :=
  .post ((url q.path).withParameters q.parameters)

end Query

end MetricBatch
