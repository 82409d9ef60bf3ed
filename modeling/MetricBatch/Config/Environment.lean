import MetricBatch.Config.Basic
import MetricBatch.Number.Natural
import MetricBatch.Text.Blank

namespace MetricBatch

/-- The values of the variables that are set. -/
abbrev Environment := String → Option String

namespace Environment

def endpointName : String := "PROMETHEUS_SERVER_ENDPOINT"

def tokenName : String := "PROMETHEUS_AUTH_TOKEN"

def maxConcurrencyName : String := "PROM_QUERY_MAX_CONCURRENCY"

def timeoutName : String := "PROM_QUERY_TIMEOUT_SECS"

/-- The number in a variable, with blanks around it or without; none if the variable is not set. -/
def number (env : Environment) (name : String) : Except ConfigError (Option Nat) :=
  match env name with
  | none => .ok none
  | some value =>
    match Natural.read Natural.max64 (Text.trim value.toList) with
    | .ok n => .ok (some n)
    | .error _ => .error (.invalid (.notNumber name value))

/-- What the variables set, and the error at which reading stopped. They are read one after the
other; at a number that cannot be read the ones before it stand. -/
def settings (env : Environment) : Settings × Option ConfigError :=
  let texts : Settings :=
    { Settings.none with endpoint := env endpointName, token := env tokenName }
  match env.number maxConcurrencyName with
  | .error e => (texts, some e)
  | .ok maxConcurrency =>
    let settings := { texts with maxConcurrency }
    match env.number timeoutName with
    | .error e => (settings, some e)
    | .ok seconds => ({ settings with timeout := seconds.map Span.ofSeconds }, none)

/-- The settings of an environment in which every number can be read. -/
def settings? (env : Environment) : Except ConfigError Settings :=
  match env.settings with
  | (settings, none) => .ok settings
  | (_, some e) => .error e

end Environment

end MetricBatch
