import MetricBatch.CommandLine.Items
import MetricBatch.Config.Environment

namespace MetricBatch.CommandLine

inductive UsageError where
  | unknown (argument : String)
  | valueRequired (o : ValueOption)
  | surplus (s : Switch) (value : String)
  /-- What may be there only once, as it is shown. -/
  | repeated (shown : String)
  | invalidValue (o : ValueOption) (value : String) (error : Natural.ReadError)
  /-- What is not there, as it is shown. -/
  | missing (shown : List String)
  deriving DecidableEq, Repr

def UsageError.message : UsageError → String
  | .unknown argument => s!"unexpected argument '{argument}' found"
  | .valueRequired o => s!"a value is required for '{o.shown}' but none was supplied"
  | .surplus s value => s!"unexpected value '{value}' for '{s.shown}' found; no more were expected"
  | .repeated shown => s!"the argument '{shown}' cannot be used multiple times"
  | .invalidValue o value error => s!"invalid value '{value}' for '{o.shown}': {error.message}"
  | .missing shown =>
    "the following required arguments were not provided:" ++ String.join (shown.map ("\n  " ++ ·))

structure Arguments where
  queries : List String
  endpoint : Option String
  maxConcurrency : Option Nat
  timeout : Option Nat
  range : Option Nat
  step : Option Nat
  config : Option String
  logLevel : Option String
  pretty : Bool
  deriving DecidableEq, Repr

/-- Why there are no arguments. -/
inductive Stop where
  | help
  | version
  | usage (error : UsageError)
  deriving DecidableEq, Repr

namespace Arguments

def none : Arguments := ⟨[], .none, .none, .none, .none, .none, .none, .none, false⟩

/-- The settings that the arguments make. -/
def settings (a : Arguments) : Settings :=
  { endpoint := a.endpoint
    token := .none
    maxConcurrency := a.maxConcurrency
    timeout := a.timeout.map Span.ofSeconds }

def number (o : ValueOption) (value : String) : Except UsageError Nat :=
  match Natural.read Natural.max64 value.toList with
  | .ok n => .ok n
  | .error e => .error (.invalidValue o value e)

def path (o : ValueOption) (value : String) : Except UsageError String :=
  if value.isEmpty then .error (.valueRequired o) else .ok value

/-- The value of an option that may be there only once. -/
def once {α : Type} (o : ValueOption) (old : Option α) (value : Except UsageError α) :
    Except UsageError (Option α) :=
  if old.isSome then .error (.repeated o.shown) else value.map some

def withValue (a : Arguments) (o : ValueOption) (value : String) : Except UsageError Arguments := do
  match o with
  | .endpoint => return { a with endpoint := ← once o a.endpoint (.ok value) }
  | .maxConcurrency =>
    return { a with maxConcurrency := ← once o a.maxConcurrency (number o value) }
  | .timeout => return { a with timeout := ← once o a.timeout (number o value) }
  | .range => return { a with range := ← once o a.range (number o value) }
  | .step => return { a with step := ← once o a.step (number o value) }
  | .config => return { a with config := ← once o a.config (path o value) }
  | .logLevel => return { a with logLevel := ← once o a.logLevel (.ok value) }

def withOption (a : Arguments) (o : ValueOption) : Option String → Except UsageError Arguments
  | some value => a.withValue o value
  | .none => .error (.valueRequired o)

/-- An item that stops the reading, whatever is still to be looked at before it. -/
def unreadable? : List Item → Option UsageError
  | .unknown text :: _ => some (.unknown text)
  | .surplus s value :: _ => some (.surplus s value)
  | _ => .none

def usage {α : Type} : Except UsageError α → Except Stop α
  | .ok a => .ok a
  | .error e => .error (.usage e)

/-- An option whose value is an argument of its own is looked at when the next item is there, unless
that item is one that cannot be read at all; everything else is looked at in order. -/
def addItems (a : Arguments) : List Item → Except Stop Arguments
  | [] => .ok a
  | .query text :: rest => { a with queries := a.queries ++ [text] }.addItems rest
  | .switch .help :: _ => .error .help
  | .switch .version :: _ => .error .version
  | .switch .pretty :: rest =>
    if a.pretty then .error (.usage (.repeated Switch.pretty.shown))
    else { a with pretty := true }.addItems rest
  | .attached o value :: rest => do
    let a ← usage (a.withValue o value)
    a.addItems rest
  | .detached o value :: rest =>
    match unreadable? rest with
    | some e => .error (.usage e)
    | .none => do
      let a ← usage (a.withOption o value)
      a.addItems rest
  | .unknown text :: _ => .error (.usage (.unknown text))
  | .surplus s value :: _ => .error (.usage (.surplus s value))

/-- The variable with the path of the configuration file. -/
def configName : String := "PROM_QUERY_CONFIG"

def withEnvironment (a : Arguments) (env : Environment) : Except UsageError Arguments :=
  match a.config, env configName with
  | .none, some value => a.withValue .config value
  | _, _ => .ok a

/-- What has to be there and is not. A step needs a range. -/
def missing (a : Arguments) : List String :=
  (if a.step.isSome && a.range.isNone then [ValueOption.range.shown] else [])
    ++ (if a.queries.isEmpty then ["<QUERY>..."] else [])

/-- Reads the arguments of the program in an environment. -/
def read (env : Environment) (args : List String) : Except Stop Arguments := do
  let a ← none.addItems (items .none args)
  let a ← usage (a.withEnvironment env)
  if a.missing.isEmpty then return a else throw (.usage (.missing a.missing))

end Arguments

end MetricBatch.CommandLine
