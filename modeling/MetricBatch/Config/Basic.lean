import MetricBatch.Backend.Client
import MetricBatch.Gate.Basic

namespace MetricBatch

structure Config where
  endpoint : String
  maxConcurrency : Nat
  /-- The time that one request may take. -/
  timeout : Span
  token : Option String
  deriving DecidableEq, Repr

/-- What one layer sets; it leaves the other values to the layers below it. -/
structure Settings where
  endpoint : Option String
  token : Option String
  maxConcurrency : Option Nat
  timeout : Option Span
  deriving DecidableEq, Repr

def Settings.none : Settings := ⟨.none, .none, .none, .none⟩

/-- Why values cannot be used. -/
inductive InvalidSetting where
  | notNumber (variableName value : String)
  | noConcurrency
  | shortTimeout
  | badEndpoint (endpoint : String) (error : UrlError)
  | badScheme (endpoint : String)
  deriving DecidableEq, Repr

open Text in
def InvalidSetting.message : InvalidSetting → String
  | .notNumber variableName value => s!"{variableName}={quoted value} is not a valid number"
  | .noConcurrency => "max_concurrency must be at least 1"
  | .shortTimeout => "request timeout must be at least 1 second"
  | .badEndpoint endpoint error => s!"endpoint {quoted endpoint}: {error.message}"
  | .badScheme endpoint => s!"endpoint {quoted endpoint} must use http or https"

/-- Why no text can be read from a file that is there. -/
inductive ReadFailure where
  /-- The bytes are not UTF-8. -/
  | notUtf8
  /-- The system does not give the bytes. -/
  | refused (reason : String)
  deriving DecidableEq, Repr

def ReadFailure.reason : ReadFailure → String
  | .notUtf8 => "stream did not contain valid UTF-8"
  | .refused reason => reason

/-- A file that is there and from which no text can be read. -/
structure UnreadFile where
  path : String
  failure : ReadFailure
  deriving DecidableEq, Repr

inductive ConfigError where
  | missingFile (path : String)
  | notText (file : UnreadFile)
  /-- The file is not TOML, or has something else where a setting belongs. -/
  | malformed
  | invalid (setting : InvalidSetting)
  deriving DecidableEq, Repr

namespace ConfigError

/-- What is behind an error with the file. Of a file that is no document with settings it does not
say where; a line of its own stands for what a TOML reader has to say. -/
def reason? : ConfigError → Option String
  | .missingFile _ => some "No such file or directory (os error 2)"
  | .notText file => some file.failure.reason
  | .malformed => some "not a TOML document with the expected settings"
  | .invalid _ => none

def invalidText (reason : String) : String := s!"Invalid configuration: {reason}"

def message (e : ConfigError) : String :=
  let reason := e.reason?.getD ""
  match e with
  | .missingFile path => s!"Failed to read config file at {path}: {reason}"
  | .notText file => s!"Failed to read config file at {file.path}: {reason}"
  | .malformed => s!"Failed to parse TOML config: {reason}"
  | .invalid setting => invalidText setting.message

end ConfigError

namespace Config

def defaultEndpoint : String := "http://localhost:9090"

def defaultTimeout : Span := .ofSeconds 120

/-- The bottom layer. -/
def default : Config := ⟨defaultEndpoint, Gate.defaultCapacity, defaultTimeout, none⟩

/-- Puts a layer on top. -/
def apply (c : Config) (s : Settings) : Config :=
  { endpoint := s.endpoint.getD c.endpoint
    maxConcurrency := s.maxConcurrency.getD c.maxConcurrency
    timeout := s.timeout.getD c.timeout
    token := s.token.or c.token }

/-- The text of a configuration. It never shows the token. -/
def text (c : Config) : String :=
  "QueryConfig \x7b endpoint: " ++ Text.quoted c.endpoint ++ ", max_concurrency: "
    ++ toString c.maxConcurrency ++ ", request_timeout: " ++ c.timeout.text ++ ", auth_token: "
    ++ Client.shownToken c.token ++ " \x7d"

/-- The first value that cannot be used. -/
def invalid? (c : Config) : Option InvalidSetting :=
  if c.maxConcurrency = 0 then some .noConcurrency
  else if c.timeout.seconds = 0 then some .shortTimeout
  else
    match Url.parse c.endpoint with
    | .error e => some (.badEndpoint c.endpoint e)
    | .ok url => if Url.isHttp url.scheme then none else some (.badScheme c.endpoint)

def validate (c : Config) : Except ConfigError Unit :=
  match c.invalid? with
  | some setting => .error (.invalid setting)
  | none => .ok ()

/-- The client of a configuration. -/
def client (c : Config) : Except ClientError Client := do
  let client ← Client.ofEndpoint c.endpoint
  return { client with token := c.token }

end Config

end MetricBatch
