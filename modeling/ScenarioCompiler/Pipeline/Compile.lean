import ScenarioCompiler.Pipeline.DependencyGraph
import ScenarioCompiler.Pipeline.Stack
import ScenarioCompiler.Pipeline.Stage
import ScenarioCompiler.Step.Fetch
import ScenarioCompiler.Step.Solution
import ScenarioCompiler.Step.Warehouse

namespace ScenarioCompiler.Pipeline

/-- What the builders of the stages work on. -/
structure Input where
  run : RunContext
  checker : EventHubChecker
  scenario : Scenario
  solution : Solution
  template : RunTemplate
  catalog : Catalog

namespace Input

/-- The sizing of the scenario wins over the one of the run template. -/
def sizing (input : Input) : Option ResourceSizing :=
  input.scenario.resourceSizing.or input.template.resourceSizing

/-- The stage of one step of the solution. -/
def solutionStage (input : Input) (kind : StageKind) (step : SolutionStep) : Stage Compile where
  kind := kind
  enabled := step.isEnabled input.template
  build dependencies := do
    let container ← Step.runSolution input.run input.checker input.solution input.template.id step
      dependencies input.sizing
    pure [container]

def datasetFetch (input : Input) : Stage Compile where
  kind := .datasetFetch
  enabled := isStepEnabled input.template.fetchDatasets
  build _ := Traced.ofExcept (Step.fetchDatasets input.run input.catalog input.scenario)
  rootWhenFirst := true

def scenarioParameterFetch (input : Input) : Stage Compile where
  kind := .scenarioParameterFetch
  enabled := isStepEnabled input.template.fetchScenarioParameters
  build dependencies := Traced.ofExcept <|
    (Step.fetchParameters input.run input.template.parametersJson dependencies).map ([·])
  rootWhenFirst := true

def datasetParameterFetch (input : Input) : Stage Compile where
  kind := .datasetParameterFetch
  enabled := isStepEnabled input.template.fetchScenarioParameters
  build dependencies := Traced.ofExcept <|
    Step.fetchDatasetParameters input.run input.catalog input.scenario input.solution dependencies

def sendToWarehouse (input : Input) : Stage Compile :=
  let content := Step.WarehouseContent.of input.run.workspace input.template
  { kind := .sendToWarehouse
    enabled := content.parameters || content.datasets
    build := fun dependencies => Traced.ofExcept <|
      (Step.sendToWarehouse input.run content dependencies).map ([·])
    advancesFrontier := false }

/-- The stages of a run in the order of their execution. -/
def stages (input : Input) : List (Stage Compile) := [
  input.datasetFetch,
  input.scenarioParameterFetch,
  input.datasetParameterFetch,
  input.solutionStage .applyParameters .applyParameters,
  input.solutionStage .validate .validate,
  input.sendToWarehouse,
  input.solutionStage .preRun .preRun,
  input.solutionStage .run .run,
  input.solutionStage .postRun .postRun]

/-- The linked containers, stacked where the run template asks for it. -/
def arrange (input : Input) (linked : List Container) : List Container :=
  if input.template.stackSteps == some true then Stack.stack linked else linked

end Input

/-- What the builders need for a request; fails if the scenario uses an unknown run template. -/
def input (settings : PlatformSettings) (checker : EventHubChecker) (request : RunRequest)
    (csmSimulationId : String) : Except Failure Input := do
  let template ← request.solution.template request.scenario.runTemplateId
  pure {
    run := {
      settings
      organization := request.organization
      workspace := request.workspace
      scenarioId := request.scenario.id
      csmSimulationId }
    checker
    scenario := request.scenario
    solution := request.solution
    template
    catalog := ⟨request.datasets, request.connectors⟩ }

/-- The containers of a run in the order of their execution; every one comes after those that it
waits for. -/
def containers (settings : PlatformSettings) (checker : EventHubChecker) (request : RunRequest)
    (csmSimulationId : String) : Compile (List Container) := do
  let input ← (input settings checker request csmSimulationId : Except Failure Input)
  let linked ← Stage.linkAll input.stages
  let result := input.arrange linked
  let _ ← (DependencyGraph.of result : Except Failure DependencyGraph)
  pure result

/-- The id of a run: the given one, or a fresh one where none is given. -/
def simulationId (request : RunRequest) (freshId : String) : String :=
  match request.csmSimulationId with
  | none => freshId
  | some id => if id.isEmpty then freshId else id

/-- The containers of a run with all that its workflow needs. -/
def start (settings : PlatformSettings) (checker : EventHubChecker) (request : RunRequest)
    (freshId : String) : Compile RunStart := do
  let template ← (request.solution.template request.scenario.runTemplateId :
    Except Failure RunTemplate)
  let csmSimulationId := simulationId request freshId
  let containers ← containers settings checker request csmSimulationId
  pure {
    containers
    nodeLabel := nodeLabel template.computeSize
    generateName := kubernetesName ("workflow-" ++ request.scenario.id ++ "-") maxNameLength
    csmSimulationId
    labels := request.labels }

end ScenarioCompiler.Pipeline
