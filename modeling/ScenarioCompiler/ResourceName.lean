import ScenarioCompiler.Text.LowerCase
import ScenarioCompiler.Text.Search

namespace ScenarioCompiler

/-- The characters of identifiers that Kubernetes does not accept in a name. -/
def isUnsafeInName (c : Char) : Bool := c = '/' || c = ':' || c = '_' || c = '.'

def maxNameLength : Int := 63

/-- A name for a Kubernetes resource before it is cut to length. -/
def safeNameChars (cs : List Char) : List Char :=
  Text.lowerChars (cs.map fun c => if isUnsafeInName c then '-' else c)

/-- A name that Kubernetes accepts: of a long name the end is kept, which tells it from others. -/
def kubernetesName (name : String) (maxLength : Int) : String :=
  String.ofList (Text.takeLast maxLength (safeNameChars name.toList))

/-- Paths in the cloud storage do not depend on case and are kept in lower case. -/
def storagePath (path : String) : String := Text.lowerCase path

end ScenarioCompiler
