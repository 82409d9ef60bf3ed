import MetricBatch.Config.Environment
import MetricBatch.Config.File

namespace MetricBatch.Config

/-- A path within a directory. -/
def within (directory name : String) : String :=
  if directory.endsWith "/" then directory ++ name else directory ++ "/" ++ name

/-- Where the file is when no path is given. A directory for configuration counts only if its path
is absolute. -/
def defaultPath (home : String) (configHome : Option String) : String :=
  let directory :=
    match configHome with
    | some path => if path.startsWith "/" then path else within home ".config"
    | none => within home ".config"
  within directory "prom-query/config.toml"

/-- The settings of the file at the path, or else at the default path. Only a file whose path is
given has to be there, but every file that is there has to be read. -/
def fileSettings (files : String → Option FileContent) (path : Option String)
    (defaultPath : String) : Except ConfigError Settings :=
  match path with
  | some path =>
    match files path with
    | some content => readSettings path content
    | none => .error (.missingFile path)
  | none =>
    match files defaultPath with
    | some content => readSettings defaultPath content
    | none => .ok .none

/-- Loads a configuration whose values can all be used. -/
def load (files : String → Option FileContent) (path : Option String) (defaultPath : String)
    (env : Environment) (overrides : Settings) : Except ConfigError Config := do
  let file ← fileSettings files path defaultPath
  let environment ← env.settings?
  let config := ((default.apply file).apply environment).apply overrides
  config.validate
  return config

end MetricBatch.Config
