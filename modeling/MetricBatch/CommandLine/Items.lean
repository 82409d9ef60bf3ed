
namespace MetricBatch.CommandLine

/-- The options that take a value. -/
inductive ValueOption where
  | endpoint
  | maxConcurrency
  | timeout
  | range
  | step
  | config
  | logLevel
  deriving DecidableEq, Repr

namespace ValueOption

def all : List ValueOption :=
  [.endpoint, .maxConcurrency, .timeout, .range, .step, .config, .logLevel]

def long : ValueOption → String
  | .endpoint => "endpoint"
  | .maxConcurrency => "max-concurrency"
  | .timeout => "timeout"
  | .range => "range"
  | .step => "step"
  | .config => "config"
  | .logLevel => "log-level"

def short? : ValueOption → Option Char
  | .endpoint => some 'e'
  | .maxConcurrency => some 'j'
  | .timeout => some 't'
  | .range => some 'r'
  | .step => none
  | .config => some 'c'
  | .logLevel => some 'l'

/-- What the value is called. -/
def valueName : ValueOption → String
  | .endpoint => "URL"
  | .maxConcurrency => "N"
  | .timeout | .range | .step => "SECS"
  | .config => "FILE"
  | .logLevel => "LOG_LEVEL"

def shown (o : ValueOption) : String := s!"--{o.long} <{o.valueName}>"

end ValueOption

inductive Switch where
  | pretty
  | help
  | version
  deriving DecidableEq, Repr

namespace Switch

def all : List Switch := [.pretty, .help, .version]

def long : Switch → String
  | .pretty => "pretty"
  | .help => "help"
  | .version => "version"

def short : Switch → Char
  | .pretty => 'p'
  | .help => 'h'
  | .version => 'V'

def shown (s : Switch) : String := s!"--{s.long}"

end Switch

/-- An item of a command line. Options are found by a long name after two hyphens or by a letter
after one; letters can share a hyphen. After two hyphens alone everything is a query. -/
inductive Item where
  | query (text : String)
  | switch (s : Switch)
  /-- An option with its value in the same argument. -/
  | attached (o : ValueOption) (value : String)
  /-- An option whose value is the next argument, if that can be a value. -/
  | detached (o : ValueOption) (value : Option String)
  /-- No name of an option; nothing after it is looked at. -/
  | unknown (text : String)
  /-- A value for a switch; nothing after it is looked at. -/
  | surplus (s : Switch) (value : String)
  deriving DecidableEq, Repr

/-- What a name stands for. -/
inductive Named where
  | option (o : ValueOption)
  | switch (s : Switch)
  deriving DecidableEq, Repr

def byLong? (name : String) : Option Named :=
  ((ValueOption.all.find? (·.long == name)).map Named.option).or
    ((Switch.all.find? (·.long == name)).map Named.switch)

def byShort? (c : Char) : Option Named :=
  ((ValueOption.all.find? (·.short? == some c)).map Named.option).or
    ((Switch.all.find? (·.short == c)).map Named.switch)

/-- How to go on after an argument: not at all, or with an option that may still get its value. -/
inductive Next where
  | stop
  | goOn (awaiting : Option ValueOption)
  deriving DecidableEq, Repr

/-- The item of an argument with a long name, after its hyphens. -/
def longItem (text : List Char) : List Item × Next :=
  let name := text.takeWhile (· != '=')
  let value :=
    match text.drop name.length with
    | '=' :: value => some (String.ofList value)
    | _ => none
  match byLong? (.ofList name), value with
  | none, _ => ([.unknown ("--" ++ String.ofList name)], .stop)
  | some (.switch s), none => ([.switch s], .goOn none)
  | some (.switch s), some value => ([.surplus s value], .stop)
  | some (.option o), none => ([], .goOn (some o))
  | some (.option o), some value => ([.attached o value], .goOn none)

/-- The items of letters that share a hyphen. What follows the letter of an option is its value. -/
def shortItems : List Char → List Item × Next
  | [] => ([], .goOn none)
  | c :: rest =>
    match byShort? c with
    | none => ([.unknown ("-" ++ String.singleton c)], .stop)
    | some (.switch s) =>
      let (items, next) := shortItems rest
      (.switch s :: items, next)
    | some (.option o) =>
      match rest with
      | [] => ([], .goOn (some o))
      | '=' :: value => ([.attached o (.ofList value)], .goOn none)
      | value => ([.attached o (.ofList value)], .goOn none)

inductive Shape where
  /-- A query, or the value of an option. A hyphen alone is one too. -/
  | plain
  /-- Two hyphens alone. -/
  | terminator
  | long (text : List Char)
  | short (text : List Char)
  deriving DecidableEq, Repr

def shape : List Char → Shape
  | ['-', '-'] => .terminator
  | '-' :: '-' :: text => .long text
  | ['-'] => .plain
  | '-' :: text => .short text
  | _ => .plain

/-- An option that does not get a value any more. -/
def unserved (awaiting : Option ValueOption) : List Item :=
  (awaiting.map fun o => Item.detached o none).toList

/-- The items of arguments, the first of which may be the value of an option before them. -/
def items : (awaiting : Option ValueOption) → List String → List Item
  | awaiting, [] => unserved awaiting
  | awaiting, arg :: rest =>
    match shape arg.toList with
    | .terminator => unserved awaiting ++ rest.map Item.query
    | .plain =>
      match awaiting with
      | some o => .detached o (some arg) :: items none rest
      | none => .query arg :: items none rest
    | .long text =>
      match longItem text with
      | (read, .stop) => unserved awaiting ++ read
      | (read, .goOn next) => unserved awaiting ++ read ++ items next rest
    | .short text =>
      match shortItems text with
      | (read, .stop) => unserved awaiting ++ read
      | (read, .goOn next) => unserved awaiting ++ read ++ items next rest

end MetricBatch.CommandLine
