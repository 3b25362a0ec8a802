import ScenarioCompiler.Container.Basic
import ScenarioCompiler.Environment.Common
import ScenarioCompiler.Environment.EventHub

namespace ScenarioCompiler

/-- What all containers of a run have in common. -/
structure RunContext where
  settings : PlatformSettings
  organization : Organization
  workspace : Workspace
  scenarioId : String
  csmSimulationId : String

namespace RunContext

def ids (run : RunContext) : RunIds where
  csmSimulationId := run.csmSimulationId
  organizationId := run.organization.id
  workspaceId := run.workspace.id
  workspaceKey := run.workspace.key
  scenarioId := run.scenarioId

def coreRegistry (run : RunContext) : String :=
  match run.settings.azure with
  | some azure => azure.containerRegistries.core
  | none => ""

def solutionsRegistry (run : RunContext) : String :=
  match run.settings.azure with
  | some azure => azure.containerRegistries.solutions
  | none => ""

/-- The shared variables of the run for a container with the given flags. -/
def common (run : RunContext) (flags : IdentityFlags) : Except Failure Bindings :=
  Environment.common run.settings run.ids flags

end RunContext

/-- The name of an image; the registry and the version are left out where they are empty. -/
def imageName (registry repository : String) (version : Option String) : String :=
  let image := match version with
    | none => repository
    | some version => if version.isEmpty then repository else repository ++ ":" ++ version
  if registry.isEmpty then image else registry ++ "/" ++ image

/-- The first run template of an id. -/
def Solution.template (solution : Solution) (id : String) : Except Failure RunTemplate :=
  match solution.runTemplates.find? (·.id == id) with
  | some template => .ok template
  | none => .error (.unknownRunTemplate id solution.id)

/-- The variable with the folder that a container downloads to. -/
def fetchPathVariable : String := "CSM_FETCH_ABSOLUTE_PATH"

end ScenarioCompiler
