import ScenarioCompiler.Bindings

namespace ScenarioCompiler

structure ResourceSize where
  cpu : String
  memory : String
  deriving DecidableEq, Repr

/-- What a container asks for, and what it may use at most. -/
structure ResourceSizing where
  requests : ResourceSize
  limits : ResourceSize
  deriving DecidableEq, Repr

structure Organization where
  id : String
  name : Option String
  deriving DecidableEq, Repr

structure Workspace where
  id : String
  key : String
  name : Option String
  useDedicatedEventHubNamespace : Option Bool
  sendInputToDataWarehouse : Option Bool
  deriving DecidableEq, Repr

structure ParameterValue where
  parameterId : String
  value : String
  varType : Option String
  deriving DecidableEq, Repr

structure Scenario where
  id : String
  name : Option String
  runTemplateId : String
  datasetList : List String
  parametersValues : List ParameterValue
  resourceSizing : Option ResourceSizing
  deriving DecidableEq, Repr

/-- Where the code of a solution step comes from. -/
inductive StepSource where
  | «local»
  | cloud
  | platform
  | git
  deriving DecidableEq, Repr

/-- How a scenario is run; a step whose switch is not set is enabled, stacking is not. -/
structure RunTemplate where
  id : String
  name : Option String
  csmSimulation : Option String
  computeSize : Option String
  resourceSizing : Option ResourceSizing
  parametersJson : Option Bool
  fetchDatasets : Option Bool
  fetchScenarioParameters : Option Bool
  applyParameters : Option Bool
  validateData : Option Bool
  sendDatasetsToDataWarehouse : Option Bool
  sendInputParametersToDataWarehouse : Option Bool
  preRun : Option Bool
  run : Option Bool
  postRun : Option Bool
  stackSteps : Option Bool
  parametersHandlerSource : Option StepSource
  datasetValidatorSource : Option StepSource
  preRunSource : Option StepSource
  runSource : Option StepSource
  postRunSource : Option StepSource
  gitRepositoryUrl : Option String
  gitBranchName : Option String
  runTemplateSourceDir : Option String
  parameterGroups : Option (List String)
  executionTimeout : Option Int
  deriving DecidableEq, Repr

structure SolutionParameter where
  id : String
  varType : Option String
  defaultValue : Option String
  deriving DecidableEq, Repr

structure SolutionParameterGroup where
  id : String
  parameters : List String
  deriving DecidableEq, Repr

structure Solution where
  id : String
  key : Option String
  name : Option String
  repository : String
  version : Option String
  alwaysPull : Option Bool
  runTemplates : List RunTemplate
  parameters : List SolutionParameter
  parameterGroups : List SolutionParameterGroup
  deriving DecidableEq, Repr

structure ConnectorParameter where
  id : String
  label : Option String
  valueType : Option String
  default : Option String
  envVar : Option String
  deriving DecidableEq, Repr

structure ConnectorParameterGroup where
  id : String
  label : Option String
  parameters : List ConnectorParameter
  deriving DecidableEq, Repr

structure Connector where
  id : String
  key : Option String
  name : Option String
  repository : String
  version : Option String
  azureManagedIdentity : Option Bool
  azureAuthenticationWithCustomerAppRegistration : Option Bool
  parameterGroups : List ConnectorParameterGroup
  deriving DecidableEq, Repr

/-- The parameters of all groups in the order of their declaration. -/
def Connector.parameters (c : Connector) : List ConnectorParameter :=
  c.parameterGroups.flatMap (·.parameters)

/-- How a dataset uses its connector. -/
structure DatasetConnector where
  id : Option String
  name : Option String
  version : Option String
  parametersValues : Bindings
  deriving DecidableEq, Repr

structure Dataset where
  id : String
  name : Option String
  connector : Option DatasetConnector
  deriving DecidableEq, Repr

def Dataset.connectorId? (d : Dataset) : Option String := d.connector.bind (·.id)

/-- All that a run of a scenario needs to know. -/
structure RunRequest where
  organization : Organization
  workspace : Workspace
  solution : Solution
  scenario : Scenario
  datasets : List Dataset
  connectors : List Connector
  csmSimulationId : Option String
  labels : Option Bindings
  deriving DecidableEq, Repr

end ScenarioCompiler
