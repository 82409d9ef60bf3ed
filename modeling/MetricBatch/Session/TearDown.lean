import MetricBatch.Session.Moves

namespace MetricBatch

/-- How somebody is taken away. -/
def Party.drop : Party → Session.Move
  | .worker i => .dropTask i
  | .resize id => .dropResize id

namespace Session

variable (setup : Setup)

/-- Whoever runs or waits is taken away, one after the other. The gate, the errors and the results
stay, so the session can go on with new workers. -/
def tearDown (s : Session) (order : List Party) : Session :=
  (order.map Party.drop).foldl (move setup) s

/-- The order names everybody who may still run or wait. -/
def NamedBy (s : Session) (order : List Party) : Prop :=
  (∀ i < s.workers.length, .worker i ∈ order) ∧ ∀ r ∈ s.gate.resizes, r.call ∈ order

instance (s : Session) (order : List Party) : Decidable (s.NamedBy order) :=
  inferInstanceAs (Decidable (_ ∧ _))

/-- Adds a query, whose worker runs until its call is under way or it has to wait. -/
def launch (s : Session) (query : Query) : Session :=
  (s.spawn query).proceedIn setup 2 s.workers.length

end Session

end MetricBatch
