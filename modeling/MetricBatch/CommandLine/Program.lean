import MetricBatch.CommandLine.Window
import MetricBatch.Config.Load
import MetricBatch.Results.Document
import MetricBatch.Session.Network

namespace MetricBatch.CommandLine

/-- What the program finds when it starts. -/
structure Surroundings where
  environment : Environment
  files : String → Option Config.FileContent
  /-- Where the configuration file is when no path is given. -/
  defaultConfig : String
  now : Moment
  network : Backend.Message → Backend.Delivery

/-- What the program leaves behind. -/
structure Report where
  exit : Nat
  output : String
  errors : String
  deriving DecidableEq, Repr

def versionText : String := "promq 0.1.0\n"

/-- A stand-in for the text of `--help`: its usage line only, without the description of the
arguments that the parser of arguments makes up. -/
def helpText : String := "Usage: promq [OPTIONS] <QUERY>...\n"

/-- A cause of an error, on lines that are set in. -/
def causeText (number : Option Nat) (text : String) : String :=
  let (label, margin) :=
    match number with
    | some n => (s!"    {n}: ", "       ")
    | none => ("    ", "    ")
  label ++ String.intercalate ("\n" ++ margin) (text.splitOn "\n")

/-- The causes of an error, which are numbered if there are more than one. -/
def causeTexts : List String → List String
  | [text] => [causeText none text]
  | texts => texts.zipIdx.map fun (text, i) => causeText (some i) text

/-- The text of an error that ends the program. -/
def failureText (message : String) (causes : List String) : String :=
  let chain := if causes.isEmpty then [] else "" :: "Caused by:" :: causeTexts causes
  String.join ((s!"Error: {message}" :: chain).map (· ++ "\n"))

def failure (message : String) (causes : List String) : Report :=
  ⟨1, "", failureText message causes⟩

/-- The exit status and the message are those of the parser of arguments. What it prints behind the
message, its tips and its usage line, is left out; the last line stands in for that. -/
def usageReport (e : UsageError) : Report :=
  ⟨2, "", s!"error: {e.message}\n\nFor more information, try '--help'.\n"⟩

/-- A window that starts before the earliest moment ends the program abnormally. The message of that
is left out, and empty text stands in for it. -/
def windowReport : WindowError → Report
  | .zeroStep => failure "--step must be at least 1 second" []
  | .tooManySeconds => failure "--range is too large" [Natural.ReadError.tooLarge.message]
  | .tooLong => failure "--range is too large" []
  | .beforeEarliest => ⟨101, "", ""⟩

/-- The documents, one after the other, each with an end of line. -/
def documents (pretty : Bool) (results : List QueryResults) : String :=
  String.join (results.map fun r => r.render pretty ++ "\n")

/-- The errors of queries, and how many queries failed. -/
def errorLines (errors : List QueryError) (count : Nat) : String :=
  String.join (errors.map fun e => s!"error: {e.message}\n")
    ++ if errors.isEmpty then "" else failureText s!"{errors.length} of {count} queries failed" []

/-- Runs the queries of the arguments. -/
def runQueries (w : Surroundings) (a : Arguments) (config : Config) (client : Client)
    (range : Option QueryRange) : Report :=
  let setup := Setup.ofClient client config.timeout w.network
  let queries := a.queries.map fun text => Query.mk text range
  let (session, results) := Session.batch setup config.maxConcurrency queries
  let errors := session.errors.entries
  { exit := if errors.isEmpty then 0 else 1
    output := documents a.pretty results
    errors := errorLines errors a.queries.length }

def runArguments (w : Surroundings) (a : Arguments) : Report :=
  match Config.load w.files a.config w.defaultConfig w.environment a.settings with
  | .error e => failure "Failed to load configuration" (e.message :: e.reason?.toList)
  | .ok config =>
    match config.client with
    | .error e => failure "Failed to create HTTP client" [e.message]
    | .ok client =>
      match a.window w.now with
      | .error e => windowReport e
      | .ok range => runQueries w a config client range

/-- What the program does with its arguments, as a function of its surroundings. It prints one
document for each query, in the order of the queries, then the errors, and its exit status tells
whether there were any. -/
def run (w : Surroundings) (args : List String) : Report :=
  match Arguments.read w.environment args with
  | .error .help => ⟨0, helpText, ""⟩
  | .error .version => ⟨0, versionText, ""⟩
  | .error (.usage e) => usageReport e
  | .ok a => runArguments w a

end MetricBatch.CommandLine
