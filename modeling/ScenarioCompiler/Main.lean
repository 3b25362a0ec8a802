import ScenarioCompiler.CommandLine.Run
import ScenarioCompiler.CommandLine.Surroundings

namespace ScenarioCompiler.CommandLine

/-- Looks at a path; what may not be read counts as missing. -/
def fileState (path : String) : IO FileState := do
  try
    let place ← IO.FS.realPath path
    pure (.file place.toString (← IO.FS.readBinFile path))
  catch
    | .noFileOrDirectory .. | .permissionDenied .. => pure .missing
    | _ => pure .directory

/-- The states of the files that a command line names. -/
def fileStates (arguments : List String) (environment : Bindings) : IO (String → FileState) := do
  match parse arguments environment with
  | .ok (.run command) =>
    let request ← fileState command.request
    let platform ← fileState command.platform
    pure fun path =>
      if path = command.request then request
      else if path = command.platform then platform
      else .missing
  | _ => pure fun _ => .missing

end ScenarioCompiler.CommandLine

open ScenarioCompiler ScenarioCompiler.CommandLine in
/-- Runs the command line on the files of the machine. -/
def main (arguments : List String) : IO UInt32 := do
  let environment := environmentOf (← IO.FS.readBinFile "/proc/self/environ")
  let files ← fileStates arguments environment
  let freshId := randomId (← IO.getRandomBytes 16).data.toList
  let ending := run arguments files environment freshId
  (← IO.getStdout).putStr ending.output
  (← IO.getStderr).putStr ending.diagnosis
  pure ending.exitCode.toUInt32
