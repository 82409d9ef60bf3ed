import MetricBatch.CommandLine.Program

namespace MetricBatch.CommandLine

inductive Notice where
  /-- No path is given, and there is no file at the default path. -/
  | noConfigFile (path : String)
  /-- The configuration as it is shown. -/
  | configured (config : String)
  | dispatching (endpoint : String) (queries maxConcurrency : Nat) (range : Bool)
  | session (event : Event)
  deriving DecidableEq, Repr

namespace Notice

def level : Notice → Level
  | .noConfigFile _ | .configured _ => .debug
  | .dispatching .. => .info
  | .session event => event.level

open Text in
def message : Notice → String
  | .noConfigFile path => s!"No config file found, using defaults path={quoted path}"
  | .configured config => s!"Resolved configuration config={config}"
  | .dispatching endpoint queries maxConcurrency range =>
    s!"Dispatching queries endpoint={endpoint} queries={queries}"
      ++ s!" max_concurrency={maxConcurrency} range={range}"
  | .session event => event.message

def text (n : Notice) : String := s!"{n.level.name} {n.message}"

end Notice

/-- A file that is there and cannot be read is an error and no notice. -/
def fileNotices (w : Surroundings) (a : Arguments) : List Notice :=
  if a.config.isNone && (w.files w.defaultConfig).isNone then [.noConfigFile w.defaultConfig]
  else []

/-- A session is there before the range is looked at. -/
def sessionNotices (w : Surroundings) (a : Arguments) (config : Config) (client : Client) :
    List Notice :=
  let setup := Setup.ofClient client config.timeout w.network
  let created := (Session.new setup config.maxConcurrency).events
  created.map .session ++
    match a.window w.now with
    | .error _ => []
    | .ok range =>
      let queries := a.queries.map fun text => Query.mk text range
      let (session, _) := Session.batch setup config.maxConcurrency queries
      .dispatching config.endpoint queries.length config.maxConcurrency range.isSome ::
        (session.events.drop created.length).map .session

/-- What the program tells its log, as a function of its surroundings and its arguments: first how
its configuration comes about, then what its session tells of itself and of the queries. The log
stands apart from the report. -/
def notices (w : Surroundings) (args : List String) : List Notice :=
  match Arguments.read w.environment args with
  | .error _ => []
  | .ok a =>
    fileNotices w a ++
      match Config.load w.files a.config w.defaultConfig w.environment a.settings with
      | .error _ => []
      | .ok config =>
        .configured config.text ::
          match config.client with
          | .error _ => []
          | .ok client => sessionNotices w a config client

/-- The lines that a log of a level keeps. -/
def logLines (level : Level) (w : Surroundings) (args : List String) : List String :=
  ((notices w args).filter (level.keeps ·.level)).map Notice.text

end MetricBatch.CommandLine
