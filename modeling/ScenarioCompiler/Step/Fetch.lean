import ScenarioCompiler.ConnectorBinding
import ScenarioCompiler.DatasetIds
import ScenarioCompiler.Step.Basic

namespace ScenarioCompiler

/-- The datasets and connectors that were looked up for a run; of two with one id the last one
counts. -/
structure Catalog where
  datasets : List Dataset
  connectors : List Connector

namespace Catalog

def dataset (catalog : Catalog) (id : String) : Except Failure Dataset :=
  match catalog.datasets.reverse.find? (·.id == id) with
  | some dataset => .ok dataset
  | none => .error (.unknownDataset id)

def connector? (catalog : Catalog) (id : String) : Option Connector :=
  catalog.connectors.reverse.find? (·.id == id)

/-- The connector that a dataset uses. -/
def connectorOf (catalog : Catalog) (dataset : Dataset) : Except Failure Connector :=
  match dataset.connectorId?.bind catalog.connector? with
  | some connector => .ok connector
  | none => .error (.unknownConnector dataset.connectorId? dataset.id)

end Catalog

namespace Step

def fetchDatasetName : String := "fetchDatasetContainer"

def fetchParametersName : String := "fetchScenarioParametersContainer"

def fetchDatasetParametersName : String := "fetchScenarioDatasetParametersContainer"

/-- Where and as what a dataset is downloaded. -/
structure FetchTarget where
  forParameter : Bool
  folder : Option String
  index : Int

namespace FetchTarget

def containerName (target : FetchTarget) : String :=
  (if target.forParameter then fetchDatasetParametersName else fetchDatasetName) ++ "-" ++
    toString target.index

/-- Datasets of the scenario and datasets of its parameters go to different folders. -/
def path (target : FetchTarget) : String :=
  let base :=
    if target.forParameter then Environment.parametersPath else Environment.datasetPath
  match target.folder with
  | none => base
  | some folder => base ++ "/" ++ folder

end FetchTarget

def identityFlags (connector : Connector) : IdentityFlags where
  managed := connector.azureManagedIdentity
  customerRegistration := connector.azureAuthenticationWithCustomerAppRegistration

/-- The label that binds the container of a connector to a managed identity. -/
def identityLabels (settings : PlatformSettings) (connector : Connector) :
    Except Failure (Option Bindings) :=
  if connector.azureManagedIdentity == some true then
    match settings.azure.bind (·.credentials.core.aadPodIdBinding) with
    | none => .error (.missingConfiguration "csm.platform.azure.credentials.core.aadPodIdBinding")
    | some binding => .ok (some (.ofEntries [("aadpodidbinding", binding)]))
  else .ok none

/-- The container that downloads a dataset with its connector. The variables of the connector win
over the shared ones. -/
def fetchDataset (run : RunContext) (dataset : Dataset) (connector : Connector)
    (target : FetchTarget) (dependencies : Option (List String)) : Except Failure Container := do
  let binding ← ConnectorBinding.of run.settings connector dataset
    run.organization.id run.workspace.id
  let common ← run.common (identityFlags connector)
  let labels ← identityLabels run.settings connector
  pure {
    name := target.containerName
    image := imageName run.coreRegistry connector.repository connector.version
    runArgs := binding.arguments
    envVars := some ((common.put fetchPathVariable target.path).update binding.envVars)
    labels
    dependencies }

/-- The container that downloads the parameters of the scenario, as a JSON file where asked for. -/
def fetchParameters (run : RunContext) (asJson : Option Bool)
    (dependencies : Option (List String)) : Except Failure Container := do
  let common ← run.common {}
  let env := common.put fetchPathVariable Environment.parametersPath
  let env := if asJson == some true then (env.put "WRITE_CSV" "false").put "WRITE_JSON" "true"
    else env
  pure {
    name := fetchParametersName
    image := imageName run.coreRegistry run.settings.images.scenarioFetchParameters none
    envVars := some env
    dependencies }

/-- The folder for one of the datasets of a parameter: the only one needs no number. -/
def parameterFolder (parameterId : String) (count position : Nat) : String :=
  if count = 1 then parameterId else parameterId ++ "-" ++ toString position

/-- The datasets of all parameters, each with its folder. -/
def parameterDatasets (items : List (String × List String)) : List (String × String) :=
  items.flatMap fun item =>
    item.2.mapIdx fun position id => (parameterFolder item.1 item.2.length position, id)

/-- Fetches the datasets of a list, numbering the containers from `index` on. -/
def fetchNumbered (run : RunContext) (catalog : Catalog) (forParameter : Bool)
    (dependencies : Option (List String)) (index : Nat) :
    List (Option String × String) → Except Failure (List Container)
  | [] => pure []
  | (folder, id) :: rest => do
    let dataset ← catalog.dataset id
    let connector ← catalog.connectorOf dataset
    let container ← fetchDataset run dataset connector ⟨forParameter, folder, index⟩ dependencies
    pure (container :: (← fetchNumbered run catalog forParameter dependencies (index + 1) rest))

/-- The containers that download the datasets of the scenario; none of them waits. -/
def fetchDatasets (run : RunContext) (catalog : Catalog) (scenario : Scenario) :
    Except Failure (List Container) :=
  fetchNumbered run catalog false (some [rootDependency]) 1
    (scenario.datasetList.map fun id => (none, id))

/-- The containers that download the datasets which the parameters of the scenario name. The values
are read one by one, so that a value that cannot be read is reported only if the datasets of the
values before it can be fetched. -/
def fetchDatasetParameters (run : RunContext) (catalog : Catalog) (scenario : Scenario)
    (solution : Solution) (dependencies : Option (List String)) :
    Except Failure (List Container) := do
  let (items, failure) := DatasetIds.perParameter solution scenario.parametersValues
  let containers ← fetchNumbered run catalog true dependencies 1
    ((parameterDatasets items).map fun item => (some item.1, item.2))
  match failure with
  | some failure => .error failure
  | none => pure containers

end Step

end ScenarioCompiler
