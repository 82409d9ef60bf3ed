import MetricBatch.Text.Quoted

namespace MetricBatch

/-- What can be wrong with a response that is JSON but not the answer to a query, and the lookup of
a label that a series does not have. -/
inductive ResponseError where
  | notAnObject
  | missingField (path : String)
  | unexpectedType (path expected : String)
  /-- The backend says itself that the query failed. -/
  | backendError (kind message : String)
  | unknownStatus (status : String)
  | unsupportedResultType (name : String)
  | invalidSample (reason : String)
  | missingLabel (name : String)
  deriving DecidableEq, Repr

open Text in
def ResponseError.message : ResponseError → String
  | .notAnObject => "response is not a JSON object"
  | .missingField path => s!"missing field `{path}`"
  | .unexpectedType path expected => s!"field `{path}` is not {expected}"
  | .backendError kind message => s!"backend error ({kind}): {message}"
  | .unknownStatus status => s!"unknown response status {quoted status}"
  | .unsupportedResultType name => s!"unsupported result type {quoted name}"
  | .invalidSample reason => s!"invalid sample: {reason}"
  | .missingLabel name => s!"metric has no label {quoted name}"

end MetricBatch
