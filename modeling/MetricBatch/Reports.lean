import MetricBatch.Failure

namespace MetricBatch

/-- What somebody reports: a failure, or what may be one. -/
inductive Report where
  | failure (error : QueryError)
  | optional (error? : Option QueryError)
  deriving DecidableEq, Repr

def Report.error? : Report → Option QueryError
  | .failure error => some error
  | .optional error? => error?

/-- Somebody with reports to make, one after the other. -/
structure Reporter where
  reports : List Report
  /-- How many of them have been made. -/
  made : Nat
  /-- The next failure has been told of. -/
  told : Bool
  deriving DecidableEq, Repr

namespace Reporter

def new (reports : List Report) : Reporter := ⟨reports, 0, false⟩

/-- The failures that have been reported so far. -/
def reported (r : Reporter) : List QueryError := (r.reports.take r.made).filterMap Report.error?

/-- One more report has been made. -/
def next (r : Reporter) : Reporter := { r with made := r.made + 1, told := false }

/-- The failures that have been told of so far. -/
def warned (r : Reporter) : List QueryError := if r.told then r.next.reported else r.reported

end Reporter

/-- What somebody can look at. -/
inductive Look where
  | errors
  | size
  | isEmpty
  deriving DecidableEq, Repr

/-- What somebody has seen. -/
inductive Glance where
  | errors (entries : List QueryError)
  | size (n : Nat)
  | isEmpty (b : Bool)
  deriving DecidableEq, Repr

/-- What a look at a log shows. -/
def Look.glance (log : ErrorLog) : Look → Glance
  | .errors => .errors log.entries
  | .size => .size log.size
  | .isEmpty => .isEmpty log.isEmpty

/-- One log of failures, with many who report to it and many who look at it, each going its own way.
Whoever adds a failure or looks has the log for itself for as long as that takes, so that these are
single steps. A failure is told of before it is added. -/
structure SharedLog where
  log : ErrorLog
  reporters : List Reporter
  /-- The failures that have been told of, in order. -/
  warnings : List QueryError
  /-- What readers have seen, in order. -/
  glances : List Glance
  deriving DecidableEq, Repr

namespace SharedLog

/-- What can happen, in any order. -/
inductive Action where
  /-- A reporter takes its next step. -/
  | proceed (reporter : Nat)
  /-- Somebody looks at the log. -/
  | look (what : Look)
  deriving DecidableEq, Repr

/-- A log to which some are going to report. -/
def new (programs : List (List Report)) : SharedLog := ⟨.empty, programs.map .new, [], []⟩

def setReporter (x : SharedLog) (i : Nat) (r : Reporter) : SharedLog :=
  { x with reporters := x.reporters.set i r }

/-- A reporter takes its next step. A report without a failure is made at once. -/
def proceed (x : SharedLog) (i : Nat) : SharedLog :=
  match x.reporters[i]? with
  | none => x
  | some r =>
    match r.reports[r.made]? with
    | none => x
    | some report =>
      match report.error? with
      | none => x.setReporter i r.next
      | some error =>
        if r.told then { x with log := x.log.report (some error) }.setReporter i r.next
        else { x with warnings := x.warnings ++ [error] }.setReporter i { r with told := true }

def act (x : SharedLog) : Action → SharedLog
  | .proceed i => x.proceed i
  | .look what => { x with glances := x.glances ++ [what.glance x.log] }

/-- The log after some actions. -/
def after (programs : List (List Report)) (actions : List Action) : SharedLog :=
  actions.foldl act (.new programs)

end SharedLog

end MetricBatch
