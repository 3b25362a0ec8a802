import ScenarioCompiler.Failure
import ScenarioCompiler.Placeholder
import ScenarioCompiler.Request.Basic

namespace ScenarioCompiler

/-- The parameters of a connector as its container receives them. -/
structure ConnectorBinding where
  envVars : Bindings
  arguments : List String
  deriving DecidableEq, Repr

namespace ConnectorBinding

/-- The value of a parameter: the one of the dataset, else the default, else nothing. -/
def valueOf (values : Bindings) (parameter : ConnectorParameter) : String :=
  (values.get? parameter.id).getD (parameter.default.getD "")

/-- Fails unless the dataset uses the connector; otherwise gives the values that it sets. -/
def valuesFor (dataset : Dataset) (connector : Connector) : Except Failure Bindings :=
  match dataset.connector with
  | none => .error (.unknownConnector none dataset.id)
  | some use =>
    match use.id with
    | none => .error (.unknownConnector none dataset.id)
    | some id =>
      if id = connector.id then .ok use.parametersValues
      else .error (.connectorMismatch id connector.id)

/-- Adds a parameter: to the environment under its variable, or as the next argument. -/
def add (resolve : String → Bool → String) (values : Bindings) (binding : ConnectorBinding)
    (parameter : ConnectorParameter) : ConnectorBinding :=
  let value := resolve (valueOf values parameter) parameter.envVar.isSome
  match parameter.envVar with
  | some envVar => { binding with envVars := binding.envVars.put envVar value }
  | none => { binding with arguments := binding.arguments ++ [value] }

/-- The environment and the arguments that make a connector fetch a dataset. -/
def of (settings : PlatformSettings) (connector : Connector) (dataset : Dataset)
    (organizationId workspaceId : String) : Except Failure ConnectorBinding := do
  let values ← valuesFor dataset connector
  let resolve value := Placeholder.resolve settings value organizationId workspaceId
  pure (connector.parameters.foldl (add resolve values) ⟨.empty, []⟩)

end ConnectorBinding

end ScenarioCompiler
