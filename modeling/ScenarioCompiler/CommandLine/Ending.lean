import ScenarioCompiler.CommandLine.Arguments
import ScenarioCompiler.Failure
import ScenarioCompiler.Settings.Load

namespace ScenarioCompiler.CommandLine

/-- An error that no command expects. -/
inductive Crash where
  | encoding
  | yamlValue (fault : Yaml.ValueFault)
  | settingsNotJson (fault : Datum.JsonFault)
  | settingsNotMapping
  | requestNotRecord
  | markInPath
  deriving DecidableEq, Repr

def Crash.message : Crash → String
  | encoding => "The file is not encoded in UTF-8"
  | yamlValue _ => "The file holds a scalar whose value does not exist or cannot be written"
  | settingsNotJson _ => "The platform settings cannot be written as JSON"
  | settingsNotMapping => "The platform settings are not a mapping"
  | requestNotRecord => "The run request is not a mapping with texts for keys"
  | markInPath => "The path of the run request closes a style that is not open"

/-- How a command ends. -/
inductive Ending where
  | printed (text : String)
  | usage (error : UsageError)
  | help
  | unreadable (path : String)
  | invalidSettings (error : Settings.LoadError)
  | invalidRequest (problems : List Schema.Problem)
  | failed (failure : Failure)
  | crashed (crash : Crash)

namespace Ending

def exitCode : Ending → Nat
  | printed _ | help => 0
  | invalidSettings _ | crashed _ => 1
  | usage _ | invalidRequest _ => 2
  | unreadable _ => 3
  | failed failure => (Fault.failure failure).exitCode

/-- What is printed as the result. -/
def output : Ending → String
  | printed text => text
  | _ => ""

/-- What is written about a failed compilation. -/
def report? : Ending → Option String
  | failed failure => some (Fault.failure failure).report
  | _ => none

def errorLine (message : String) : String := "Error:  " ++ message ++ "\n"

def problemLines (problems : List Schema.Problem) : String :=
  Json.write (some 2) (.arr (problems.map Schema.Problem.toJson))

/-- What is written besides the result. -/
def diagnosis : Ending → String
  | printed _ => ""
  | usage error => usageText ++ errorLine error.message
  | help => usageText ++ optionsText
  | unreadable path => errorLine ("Unable to load the file: " ++ path)
  | invalidSettings (.conflict conflict) => errorLine conflict.message
  | invalidSettings (.invalid problems) =>
    errorLine ("The platform settings are invalid. The errors are " ++ problemLines problems)
  | invalidSettings _ => errorLine "The platform settings are invalid"
  | invalidRequest problems => errorLine ("Invalid run request: " ++ problemLines problems)
  | failed failure => (Fault.failure failure).report
  | crashed crash => errorLine crash.message

end Ending

end ScenarioCompiler.CommandLine
