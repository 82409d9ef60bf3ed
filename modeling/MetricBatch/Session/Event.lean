import MetricBatch.Backend.Request
import MetricBatch.Failure

namespace MetricBatch

/-- How much an event matters. -/
inductive Level where
  | error
  | warn
  | info
  | debug
  | trace
  deriving DecidableEq, Repr

namespace Level

def rank : Level → Nat
  | .error => 0
  | .warn => 1
  | .info => 2
  | .debug => 3
  | .trace => 4

def name : Level → String
  | .error => "ERROR"
  | .warn => "WARN"
  | .info => "INFO"
  | .debug => "DEBUG"
  | .trace => "TRACE"

/-- Whether a log of this level keeps events of the other. -/
def keeps (level other : Level) : Bool := other.rank ≤ level.rank

end Level

/-- What a session tells its log. -/
inductive Event where
  | created (client : String) (capacity : Nat) (timeout : Span)
  | capacityChanged (old new : Nat)
  /-- A worker asks for its permit. -/
  | awaiting (query : String)
  | sending (query : String) (url : Url)
  | released
  | decoding (query : String) (size : Nat)
  /-- A warning of the backend, which changes nothing. -/
  | warning (query text : String)
  | parsed (query : String) (series : Nat)
  | failed (error : QueryError)
  /-- Nobody waits for the results any more. -/
  | unwanted (query : String)
  /-- A reader finds that its worker is gone. -/
  | abandoned (query : String)
  deriving DecidableEq, Repr

namespace Event

def level : Event → Level
  | .created .. | .capacityChanged .. => .info
  | .warning .. => .debug
  | .failed _ | .abandoned _ => .warn
  | _ => .trace

/-- What stands for a worker that went away. -/
def goneText : String := "query worker exited without publishing results"

open Text in
def message : Event → String
  | .created client capacity timeout =>
    s!"Query context created client={quoted client} max_concurrency={capacity}"
      ++ s!" request_timeout={timeout.text}"
  | .capacityChanged old new => s!"Admission gate capacity changed from={old} to={new}"
  | .awaiting query => s!"Awaiting admission permit query={quoted query}"
  | .sending query url => s!"Sending query query={quoted query} url={url.text}"
  | .released => "Admission permit released"
  | .decoding query size => s!"Decoding response query={quoted query} bytes={size}"
  | .warning query text =>
    s!"Backend warning for query query={quoted query} warning={quoted text}"
  | .parsed query series => s!"Query parsed query={quoted query} series={series}"
  | .failed error =>
    s!"Query failed query={error.query} kind={error.phase} error={error.message}"
  | .unwanted query => s!"Result receiver dropped before publish query={query}"
  | .abandoned query => s!"Query worker exited without publishing results query={query}"

def text (e : Event) : String := s!"{e.level.name} {e.message}"

end Event

end MetricBatch
