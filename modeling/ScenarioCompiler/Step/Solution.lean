import ScenarioCompiler.ResourceName
import ScenarioCompiler.Step.Basic

namespace ScenarioCompiler

/-- The steps that run the image of the solution. -/
inductive SolutionStep where
  | applyParameters
  | validate
  | preRun
  | run
  | postRun
  deriving DecidableEq, Repr

namespace SolutionStep

def all : List SolutionStep := [applyParameters, validate, preRun, run, postRun]

def containerName : SolutionStep → String
  | applyParameters => "applyParametersContainer"
  | validate => "validateDataContainer"
  | preRun => "preRunContainer"
  | run => "runContainer"
  | postRun => "postRunContainer"

/-- The word that tells the image which step to run. -/
def mode : SolutionStep → String
  | applyParameters => "handle-parameters"
  | validate => "validate"
  | preRun => "prerun"
  | run => "engine"
  | postRun => "postrun"

def ofMode? (mode : String) : Option SolutionStep := all.find? (·.mode == mode)

def providerVariable : SolutionStep → String
  | applyParameters => "CSM_PARAMETERS_HANDLER_PROVIDER"
  | validate => "CSM_DATASET_VALIDATOR_PROVIDER"
  | preRun => "CSM_PRERUN_PROVIDER"
  | run => "CSM_ENGINE_PROVIDER"
  | postRun => "CSM_POSTRUN_PROVIDER"

def pathVariable : SolutionStep → String
  | applyParameters => "CSM_PARAMETERS_HANDLER_PATH"
  | validate => "CSM_DATASET_VALIDATOR_PATH"
  | preRun => "CSM_PRERUN_PATH"
  | run => "CSM_ENGINE_PATH"
  | postRun => "CSM_POSTRUN_PATH"

/-- The name of the archive with the code of the step in the cloud storage. -/
def archive : SolutionStep → String
  | applyParameters => "parameters_handler"
  | validate => "validator"
  | preRun => "prerun"
  | run => "engine"
  | postRun => "postrun"

def source (template : RunTemplate) : SolutionStep → Option StepSource
  | applyParameters => template.parametersHandlerSource
  | validate => template.datasetValidatorSource
  | preRun => template.preRunSource
  | run => template.runSource
  | postRun => template.postRunSource

def isEnabled (template : RunTemplate) (step : SolutionStep) : Bool :=
  let switch := match step with
    | applyParameters => template.applyParameters
    | validate => template.validateData
    | preRun => template.preRun
    | run => template.run
    | postRun => template.postRun
  switch.getD true

/-- The path of the archive of the step. -/
def archivePath (step : SolutionStep) (organizationId solutionId templateId : String) : String :=
  storagePath (organizationId ++ "/" ++ solutionId ++ "/" ++ templateId ++ "/" ++ step.archive ++
    ".zip")

end SolutionStep

namespace StepSource

def provider : StepSource → String
  | «local» => "local"
  | cloud => "azureStorage"
  | git => "git"
  | platform => "platform"

end StepSource

namespace Step

/-- The variables that tell a step where its code is. -/
def sourceVariables (run : RunContext) (solution : Solution) (template : RunTemplate)
    (templateId : String) (step : SolutionStep) : Table String :=
  match step.source template with
  | none => []
  | some source =>
    let connectionString := match run.settings.azure with
      | some azure => azure.storage.connectionString
      | none => ""
    [(step.providerVariable, source.provider),
      ("AZURE_STORAGE_CONNECTION_STRING", connectionString)] ++ match source with
      | .cloud | .platform =>
        [(step.pathVariable, step.archivePath run.organization.id solution.id templateId)]
      | .git => [
          (step.pathVariable, template.gitRepositoryUrl.getD ""),
          ("CSM_RUN_TEMPLATE_GIT_BRANCH_NAME", template.gitBranchName.getD ""),
          ("CSM_RUN_TEMPLATE_SOURCE_DIRECTORY", template.runTemplateSourceDir.getD "")]
      | .local => []

def simulationVariables (template : RunTemplate) : Table String :=
  match template.csmSimulation with
  | none => []
  | some simulation => [("CSM_SIMULATION", simulation)]

/-- The container that runs one step of the solution. -/
def runSolution (run : RunContext) (checker : EventHubChecker) (solution : Solution)
    (templateId : String) (step : SolutionStep) (dependencies : Option (List String))
    (sizing : Option ResourceSizing) : Compile Container := do
  let template ← (solution.template templateId : Except Failure RunTemplate)
  let common ← (run.common {} : Except Failure Bindings)
  let hub ← EventHub.environment run.settings run.organization run.workspace checker
  pure {
    name := step.containerName
    image := imageName run.solutionsRegistry solution.repository solution.version
    entrypoint := some "entrypoint.py"
    envVars := some (common.putAll (
      [("CSM_RUN_TEMPLATE_ID", templateId), (containerModeVariable, step.mode)] ++ hub ++
        simulationVariables template ++ sourceVariables run solution template templateId step))
    dependencies
    solutionContainer := true
    runSizing := sizing }

end Step

end ScenarioCompiler
