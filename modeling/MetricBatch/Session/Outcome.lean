import MetricBatch.Backend.Client
import MetricBatch.Backend.Status
import MetricBatch.Json.Reader
import MetricBatch.Results.Response
import MetricBatch.Session.Event
import MetricBatch.Text.Blank

namespace MetricBatch

/-- What the backend does with a call; delays are in milliseconds. -/
inductive Reply where
  | answer (delay : Nat) (result : Except ClientError Backend.Response)
  /-- No answer ever comes. -/
  | silence
  /-- The worker that made the call dies of it. -/
  | crash (delay : Nat)

/-- How a call ends. -/
inductive CallEnd where
  | answered (result : Except ClientError Backend.Response)
  | timedOut
  | crashed

namespace Reply

/-- What the backend has answered after so many milliseconds. -/
def ready? (elapsed : Nat) : Reply → Option CallEnd
  | .answer delay result => if delay ≤ elapsed then some (.answered result) else none
  | .silence => none
  | .crash delay => if delay ≤ elapsed then some .crashed else none

/-- Looks at a call that may take so many milliseconds. The answer is looked at before the time, so
that an answer at the last moment counts. -/
def poll (limit elapsed : Nat) (reply : Reply) : Option CallEnd :=
  match reply.ready? elapsed with
  | some result => some result
  | none => if limit ≤ elapsed then some .timedOut else none

/-- How long a call takes that may take so many milliseconds. -/
def duration (limit : Nat) : Reply → Nat
  | .answer delay _ | .crash delay => min delay limit
  | .silence => limit

/-- How a call ends that may take so many milliseconds. -/
def callEnd (limit : Nat) : Reply → CallEnd
  | .answer delay result => if delay ≤ limit then .answered result else .timedOut
  | .silence => .timedOut
  | .crash delay => if delay ≤ limit then .crashed else .timedOut

end Reply

/-- What becomes of one query. It depends on the query, on what the backend does with its call, and
on the time that a call may take, and on nothing else. -/
inductive Outcome where
  | succeeded (results : QueryResults)
  /-- The worker reports the error and publishes a placeholder. -/
  | failed (error : QueryError)
  /-- The worker of the query is gone without publishing. -/
  | lost (query : String)
  deriving DecidableEq, Repr

namespace Outcome

/-- What is reported; every query without results has one report. -/
def error? : Outcome → Option QueryError
  | .succeeded _ => none
  | .failed error => some error
  | .lost query => some (.transport query none Event.goneText)

/-- What a reader gets. -/
def results : Outcome → QueryResults
  | .succeeded results => results
  | .failed error => .placeholder error.query
  | .lost query => .placeholder query

def isLost : Outcome → Bool
  | .lost _ => true
  | _ => false

/-- The longest quotation of a body. -/
def maxDetail : Nat := 256

/-- What a body says about an error: its own message, or else its text. -/
def errorDetail (body : List UInt8) : String :=
  let message :=
    match Json.read body with
    | .ok v => (v.member? "error").bind Json.Value.string?
    | .error _ => none
  match message with
  | some message => message
  | none =>
    let text := Text.trim (Text.Utf8.lossy body)
    if text.isEmpty then "empty response body" else String.ofList (text.take maxDetail)

def ofBody (query : String) (body : List UInt8) : Outcome :=
  match Json.read body with
  | .error e => .failed (.decode query e.message)
  | .ok v =>
    match QueryResults.ofResponse query v with
    | .error e => .failed (.response query e)
    | .ok results => .succeeded results

open Backend in
def ofResponse (query : String) (r : Response) : Outcome :=
  if isSuccess r.status then ofBody query r.body
  else
    let detail := s!"backend returned {statusText r.status}: {errorDetail r.body}"
    .failed (.transport query (some r.status) detail)

end Outcome

namespace CallEnd

def outcome (timeout : Span) (query : String) : CallEnd → Outcome
  | .answered (.ok response) => .ofResponse query response
  | .answered (.error e) => .failed (.transport query none e.message)
  | .timedOut => .failed (.transport query none s!"request timed out after {timeout.text}")
  | .crashed => .lost query

/-- The warnings in a body that is JSON. -/
def warnings (body : List UInt8) : List String :=
  match Json.read body with
  | .ok v =>
    (((v.member? "warnings").bind Json.Value.array?).getD []).filterMap Json.Value.string?
  | .error _ => []

/-- What a worker logs about an answer with a good status. -/
def bodyEvents (query : String) : CallEnd → List Event
  | .answered (.ok response) =>
    if Backend.isSuccess response.status then
      .decoding query response.body.length :: (warnings response.body).map (Event.warning query)
    else []
  | _ => []

end CallEnd

/-- The outcome of a query by its reply. -/
def Reply.outcome (timeout : Span) (query : String) (reply : Reply) : Outcome :=
  (reply.callEnd timeout.millisRoundedUp).outcome timeout query

end MetricBatch
