import CoverageNote.Http.Client
import CoverageNote.Program
import CoverageNote.Report.Command

/-!
# The executable

`main` reads the variables of the environment that the settings come from, runs the program, and prints what
it printed. All that is decided is decided in `Program.run`. No command is carried out here and no network is
reached : the report command is not found, so details of the coverage come from the environment alone.
-/

namespace CoverageNote

namespace Main

/-- A command that is not found. -/
def notFound : Finished where
  stdout := []
  stderr := Utf8.encode "go: command not found".toList
  ending := .exit 127

/-- The world of the executable, for an environment. -/
def world (env : Environment) : World Unit Http.Request :=
  Http.world .silent (Settings.ofEnvironment env)
    (notFound.report (env.value? "PATH".toList) reportCommand)

/-- The line of a warning in the log : its message and the other fields behind it. -/
def warningLine (fields : List (Text × Text)) : Text :=
  let (message, others) := fields.partition fun field => field.1 = "message".toList
  "WARN".toList ++ message.flatMap (fun field => ' ' :: field.2) ++
    others.flatMap (fun field => ' ' :: field.1 ++ '=' :: field.2) ++ ['\n']

/-- The log of the executable : the warnings of a run, in order. -/
def logged (trace : List (Moment Http.Request)) : Text :=
  trace.flatMap fun
    | .said (.warning fields) => warningLine fields
    | .said _ | .asked _ _ _ => []

/-- The search path and the variables that the settings come from, as far as they are set. -/
def environment : IO Environment := do
  let names := [Settings.tokenName, Settings.apiUrlName, Settings.repositoryName, Settings.shaName,
    Settings.totalName, Settings.detailsName, Settings.minCoverageName, "PATH".toList]
  names.filterMapM fun name => do
    let value ← IO.getEnv (String.ofList name)
    return value.map fun v => (name, v.toList)

end Main

end CoverageNote

open CoverageNote in
/-- Run the program with the arguments of the command line. -/
def main (arguments : List String) : IO UInt32 := do
  let env ← Main.environment
  let p := Program.run Main.logged (Main.world env) (arguments.map String.toList) ()
  (← IO.getStdout).putStr (String.ofList p.stdout)
  (← IO.getStderr).putStr (String.ofList p.stderr)
  return UInt32.ofNat p.exitCode
