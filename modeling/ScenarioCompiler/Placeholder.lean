import ScenarioCompiler.ResourceName
import ScenarioCompiler.Settings.Basic

namespace ScenarioCompiler

/-- What stands behind the value of a parameter. -/
inductive Placeholder where
  | literal
  | workspaceFile
  | storageConnectionString
  | datasetId
  | noneValue
  deriving DecidableEq, Repr

namespace Placeholder

def workspaceFileToken : String := "%WORKSPACE_FILE%"

def connectionStringToken : String := "%STORAGE_CONNECTION_STRING%"

def datasetIdToken : String := "%DATASETID%"

def noneToken : String := "%NONE%"

def contains (value token : String) : Bool := Text.occurs token.toList value.toList

/-- Dataset ids and the absence of a value are marked by the whole text, the other placeholders
anywhere in it. -/
def ofText (value : String) : Placeholder :=
  if value = datasetIdToken then .datasetId
  else if value = noneToken then .noneValue
  else if contains value workspaceFileToken then .workspaceFile
  else if contains value connectionStringToken then .storageConnectionString
  else .literal

def classify : Option String → Placeholder
  | none => .literal
  | some value => ofText value

/-- The folder of a workspace in the cloud storage. -/
def workspaceFolder (organizationId workspaceId : String) : String :=
  storagePath (organizationId ++ "/" ++ workspaceId)

def replaceToken (value token replacement : String) : String :=
  String.ofList (Text.replaceAll token.toList replacement.toList value.toList)

/-- The value with its placeholders filled in. The token of the workspace alone stands for a file
in the folder of the workspace, whose name depends on how the value is handed over. -/
def resolve (settings : PlatformSettings) (value organizationId workspaceId : String)
    (envBound : Bool) : String :=
  let folder := workspaceFolder organizationId workspaceId
  if value = workspaceFileToken then
    folder ++ "/" ++ if envBound then "workspace.env" else "workspace.param"
  else
    let connectionString := match settings.azure with
      | some azure => azure.storage.connectionString
      | none => ""
    replaceToken (replaceToken value workspaceFileToken folder)
      connectionStringToken connectionString

end Placeholder

/-- The node pool for a size of machine: no preference without a size, the basic pool when the size
is explicitly none, and else the pool of that name. -/
def nodeLabel (computeSize : Option String) : Option String :=
  match computeSize with
  | none => none
  | some size =>
    let suffix := "pool".toList
    if size.isEmpty then none
    else if Placeholder.ofText size = .noneValue then some "basicpool"
    else
      let cs := size.toList
      let base := if suffix.isSuffixOf cs then cs.take (cs.length - suffix.length) else cs
      some (String.ofList (base ++ suffix))

end ScenarioCompiler
