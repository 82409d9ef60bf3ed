import MetricBatch.Results.ResponseError

namespace MetricBatch

/-- The failure of a single query, with the text of the query, so that collected failures can be
told apart. -/
inductive QueryError where
  /-- No usable answer: the request could not be sent, took too long, or had a bad status. -/
  | transport (query : String) (status : Option Nat) (detail : String)
  /-- The answer is not JSON. -/
  | decode (query : String) (detail : String)
  /-- The answer is JSON but not the answer to a query. -/
  | response (query : String) (source : ResponseError)
  deriving DecidableEq, Repr

namespace QueryError

def query : QueryError → String
  | .transport query _ _ | .decode query _ | .response query _ => query

/-- The phase that failed. -/
def phase : QueryError → String
  | .transport .. => "transport"
  | .decode .. => "decode"
  | .response .. => "parse"

/-- The status of the backend's answer, if that is what failed. -/
def status : QueryError → Option Nat
  | .transport _ status _ => status
  | _ => none

def source : QueryError → Option ResponseError
  | .response _ source => some source
  | _ => none

open Text in
def message : QueryError → String
  | .transport query _ detail => s!"error fetching query {quoted query}: {detail}"
  | .decode query detail => s!"error decoding response for query {quoted query}: {detail}"
  | .response query source =>
    s!"error parsing response for query {quoted query}: {source.message}"

end QueryError

/-- The failures reported so far, in the order of the reports. -/
structure ErrorLog where
  entries : List QueryError
  deriving DecidableEq, Repr

namespace ErrorLog

def empty : ErrorLog := ⟨[]⟩

/-- Adds a failure; a report without one changes nothing. -/
def report (log : ErrorLog) : Option QueryError → ErrorLog
  | some e => ⟨log.entries ++ [e]⟩
  | none => log

def size (log : ErrorLog) : Nat := log.entries.length

def isEmpty (log : ErrorLog) : Bool := log.entries.isEmpty

end ErrorLog

end MetricBatch
