import MetricBatch.CommandLine.Program
import Std.Time.DateTime.Timestamp

namespace MetricBatch

open CommandLine

def variableNames : List String :=
  [Environment.endpointName, Environment.tokenName, Environment.maxConcurrencyName,
    Environment.timeoutName, Arguments.configName]

/-- What there is at a path. -/
def readFile (path : String) : IO (Option Config.FileContent) := do
  try
    let bytes ← IO.FS.readBinFile path
    return some (.ok bytes.toList)
  catch
    | .noFileOrDirectory .. => return none
    | .inappropriateType (some _) .. => return some (.error "Not a directory (os error 20)")
    | .inappropriateType none .. => return some (.error "Is a directory (os error 21)")
    | .permissionDenied .. => return some (.error "Permission denied (os error 13)")
    | .hardwareFault .. => return some (.error "Input/output error (os error 5)")
    | e => return some (.error e.toString)

/-- The files that there are among the paths. -/
def readFiles (paths : List String) : IO (List (String × Config.FileContent)) :=
  paths.filterMapM fun path => do
    let content? ← readFile path
    return content?.map (path, ·)

/-- Whether the way to a path can be gone to its end, whatever is there and whether or not it can be
read. -/
def isReached (path : String) : IO Bool :=
  return (← (IO.FS.realPath path).toBaseIO).isOk

def currentTime : IO Moment := do
  let time := (← Std.Time.Timestamp.now).val
  return (Moment.of? time.second.val time.nano.val.toNat).getD .epoch

def gather (args : List String) : IO Surroundings := do
  let found ← variableNames.filterMapM fun name => do
    return (← IO.getEnv name).map (name, ·)
  let environment : Environment := fun name => found.lookup name
  let home := (← IO.getEnv "HOME").getD "/"
  let defaultConfig := Config.defaultPath home (← IO.getEnv "XDG_CONFIG_HOME")
  let given :=
    match Arguments.read environment args with
    | .ok a => a.config.toList
    | .error _ => []
  -- A default file that cannot be reached is no fault; one whose path is given is.
  let reached ← [defaultConfig].filterM isReached
  let files ← readFiles (given ++ reached)
  let now ← currentTime
  return {
    environment
    files := fun path => files.lookup path
    defaultConfig
    now
    network := fun _ => .unanswered }

end MetricBatch

/-- Gathers the surroundings, runs, and writes the report. There is no network here; requests stay
unanswered. -/
def main (args : List String) : IO UInt32 := do
  let report := MetricBatch.CommandLine.run (← MetricBatch.gather args) args
  IO.print report.output
  IO.eprint report.errors
  return report.exit.toUInt32
