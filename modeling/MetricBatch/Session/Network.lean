import MetricBatch.Session.Time

namespace MetricBatch

/-- A session's surroundings when its client sends over a network. -/
def Setup.ofClient (client : Client) (timeout : Span)
    (network : Backend.Message → Backend.Delivery) : Setup :=
  { name := Client.name
    url := client.url
    timeout
    backend := fun request => .answer 0 (client.execute network request) }

/-- The same when an answer takes its milliseconds, or never comes. -/
def Setup.ofSlowClient (client : Client) (timeout : Span)
    (delay? : Backend.Message → Option Nat) (network : Backend.Message → Backend.Delivery) : Setup :=
  { Setup.ofClient client timeout network with
    backend := fun request =>
      match delay? (client.message request) with
      | some delay => .answer delay (client.execute network request)
      | none => .silence }

/-- Runs queries in a session of their own and reads all results, in the order of the queries. -/
def Session.batch (setup : Setup) (maxConcurrency : Nat) (queries : List Query) :
    Session × List QueryResults :=
  ((Session.new setup maxConcurrency).submitAll setup queries).readAll setup

end MetricBatch
