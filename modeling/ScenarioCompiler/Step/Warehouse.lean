import ScenarioCompiler.Step.Basic

namespace ScenarioCompiler.Step

def warehouseName : String := "sendDataWarehouseContainer"

/-- The option of the run template wins over the one of the workspace; what neither of them decides
is sent. -/
def sendOption (workspaceOption templateOption : Option Bool) : Bool :=
  templateOption.getD (workspaceOption.getD true)

/-- What is sent to the data warehouse. -/
structure WarehouseContent where
  parameters : Bool
  datasets : Bool
  deriving DecidableEq, Repr

namespace WarehouseContent

def of (workspace : Workspace) (template : RunTemplate) : WarehouseContent where
  parameters :=
    sendOption workspace.sendInputToDataWarehouse template.sendInputParametersToDataWarehouse
  datasets := sendOption workspace.sendInputToDataWarehouse template.sendDatasetsToDataWarehouse

end WarehouseContent

/-- The spelling of a switch in the environment of a container. -/
def switchText (b : Bool) : String := if b then "true" else "false"

/-- The container that sends the input of the run to the data warehouse. -/
def sendToWarehouse (run : RunContext) (content : WarehouseContent)
    (dependencies : Option (List String)) : Except Failure Container := do
  let common ← run.common {}
  pure {
    name := warehouseName
    image := imageName run.coreRegistry run.settings.images.sendDataWarehouse none
    envVars := some (common.putAll [
      ("CSM_SEND_DATAWAREHOUSE_PARAMETERS", switchText content.parameters),
      ("CSM_SEND_DATAWAREHOUSE_DATASETS", switchText content.datasets)])
    dependencies }

end ScenarioCompiler.Step
