import ScenarioCompiler.Json.Basic
import ScenarioCompiler.Text.Quoted

namespace ScenarioCompiler

/-- Who has to act on an error: the operator of the platform, the author of the scenario, or the
author of the compiler. -/
inductive Blame where
  | configuration
  | client
  | invariant
  deriving DecidableEq, Repr

namespace Blame

def exitCode : Blame → Nat
  | configuration => 1
  | client => 2
  | invariant => 4

/-- The classes of the errors that someone has to act on, the general ones behind the special
ones. -/
def classes : Blame → List String
  | configuration => "ConfigurationError" :: withMessage ++ ["ValueError"]
  | client => "ClientError" :: withMessage
  | invariant => withMessage
where
  withMessage : List String := ["ScenarioRunExceptionWithMessageError", "ScenarioRunException"]

theorem eq_of_classes (blame : Blame) : blame =
    if "ClientError" ∈ blame.classes then .client
    else if "ConfigurationError" ∈ blame.classes then .configuration
    else .invariant := by
  cases blame <;> decide

end Blame

/-- Why a scenario run cannot be compiled. -/
inductive Failure where
  | unknownRunTemplate (runTemplateId : String) (solutionId : Option String)
  | unknownDataset (datasetId : String)
  | unknownConnector (connectorId datasetId : Option String)
  | connectorMismatch (datasetConnectorId connectorId : Option String)
  | unknownParameter (parameterId : String) (solutionId : Option String)
  | conflictingAuthentication
  | missingConfiguration (property : String)
  | malformedDatasetIds (value reason : String)
  | invalidDependency (container : String) (dependencies : List String) (reason : String)
  deriving DecidableEq, Repr

namespace Failure

def blame : Failure → Blame
  | unknownRunTemplate .. | unknownDataset _ | unknownConnector .. | connectorMismatch ..
  | unknownParameter .. | conflictingAuthentication | missingConfiguration _ => .configuration
  | malformedDatasetIds .. => .client
  | invalidDependency .. => .invariant

/-- An identifier in a message. -/
def shown (id : Option String) : String := id.getD "None"

def message : Failure → String
  | unknownRunTemplate runTemplateId solutionId =>
    "runTemplateId " ++ runTemplateId ++ " not found in Solution " ++ shown solutionId
  | unknownDataset datasetId => "Dataset " ++ datasetId ++ " not found in Datasets"
  | unknownConnector connectorId datasetId =>
    "Connector id " ++ shown connectorId ++ " not found in connectors list" ++
      match datasetId with
      | none => ""
      | some id => if id.isEmpty then "" else " (referenced by Dataset " ++ id ++ ")"
  | connectorMismatch datasetConnectorId connectorId =>
    "Dataset connector id " ++ shown datasetConnectorId ++ " and Connector id " ++
      shown connectorId ++ " do not match"
  | unknownParameter parameterId solutionId =>
    "Parameter " ++ parameterId ++ " not found in Solution " ++ shown solutionId
  | conflictingAuthentication =>
    "Don't know which authentication mechanism to use to connect against Azure services. " ++
      "Both azureManagedIdentity and azureAuthenticationWithCustomerAppRegistration " ++
      "cannot be set to true"
  | missingConfiguration property => "Missing configuration property: " ++ property
  | malformedDatasetIds value reason =>
    "Malformed dataset id list, " ++ reason ++ ": " ++ value
  | invalidDependency container dependencies reason =>
    "Container " ++ container ++ " has invalid dependencies " ++ Text.quotedList dependencies ++
      ": " ++ reason

def className : Failure → String
  | unknownRunTemplate .. => "UnknownRunTemplateError"
  | unknownDataset _ => "UnknownDatasetError"
  | unknownConnector .. => "UnknownConnectorError"
  | connectorMismatch .. => "ConnectorMismatchError"
  | unknownParameter .. => "UnknownParameterError"
  | conflictingAuthentication => "ConflictingAuthenticationError"
  | missingConfiguration _ => "MissingConfigurationError"
  | malformedDatasetIds .. => "MalformedDatasetIdListError"
  | invalidDependency .. => "InvalidDependencyError"

theorem className_ne (f : Failure) :
    "ClientError" ≠ f.className ∧ "ConfigurationError" ≠ f.className := by
  cases f <;> simp [className]

/-- What a failure is about. -/
def attributes : Failure → Table Json
  | unknownRunTemplate runTemplateId solutionId =>
    [("run_template_id", .str runTemplateId), ("solution_id", Json.ofOption .str solutionId)]
  | unknownDataset datasetId => [("dataset_id", .str datasetId)]
  | unknownConnector connectorId datasetId =>
    [("connector_id", Json.ofOption .str connectorId),
      ("dataset_id", Json.ofOption .str datasetId)]
  | connectorMismatch datasetConnectorId connectorId =>
    [("dataset_connector_id", Json.ofOption .str datasetConnectorId),
      ("connector_id", Json.ofOption .str connectorId)]
  | unknownParameter parameterId solutionId =>
    [("parameter_id", .str parameterId), ("solution_id", Json.ofOption .str solutionId)]
  | conflictingAuthentication => []
  | missingConfiguration property => [("property_path", .str property)]
  | malformedDatasetIds value reason => [("value", .str value), ("reason", .str reason)]
  | invalidDependency container dependencies reason =>
    [("container_name", .str container), ("dependencies", Json.ofStrings dependencies),
      ("reason", .str reason)]

/-- The reason of a list of dataset ids that is not enclosed in brackets. -/
def unterminatedList : String := "must start with [ and end with ]"

end Failure

/-- An error as it is reported, with the error behind it. -/
inductive Fault where
  | failure (failure : Failure)
  | general (blame : Blame) (message : String)
  | plain (message : String)
  | wrapped (description : String) (cause : Option Fault)
  | foreign (message : String)
  deriving Repr

namespace Fault

def message : Fault → String
  | failure f => f.message
  | general _ message | plain message | wrapped message _ | foreign message => message

def blame : Fault → Blame
  | failure f => f.blame
  | general blame _ => blame
  | plain _ | wrapped .. | foreign _ => .invariant

/-- The errors behind an error, from the outside in; `none` where a wrapped error has none. -/
def causes : Fault → List (Option Fault)
  | wrapped _ none => [none]
  | wrapped _ (some cause) => some cause :: causes cause
  | _ => []

/-- The classes that an error belongs to, its own one first. -/
def classes : Fault → List String
  | failure f => f.className :: f.blame.classes
  | general blame _ => blame.classes
  | plain _ => ["ScenarioRunException"]
  | wrapped .. => ["EnhancedException", "ScenarioRunException"]
  | foreign _ => ["ValueError"]

def className (f : Fault) : String := f.classes.headD ""

def attributes : Fault → Table Json
  | failure f => f.attributes ++ [("message", .str f.message)]
  | general _ message => [("message", .str message)]
  | plain _ | wrapped .. | foreign _ => []

/-- An error as it is shown to developers. -/
def shown (f : Fault) : String :=
  "<class 'scenariorun.model.errors." ++ f.className ++ "'>(" ++ f.message ++ ")"

/-- What is written about an error that ended a compilation. -/
def report (f : Fault) : String :=
  "Error:  Unable to compile the scenario run: " ++ f.message ++ "\n"

def exitCode (f : Fault) : Nat := f.blame.exitCode

/-- Whose fault an error is can be told from its classes. -/
theorem blame_eq (f : Fault) : f.blame =
    if "ClientError" ∈ f.classes then .client
    else if "ConfigurationError" ∈ f.classes then .configuration
    else .invariant := by
  cases f with
  | failure f => simp [blame, classes, f.className_ne, ← f.blame.eq_of_classes]
  | general blame _ => exact blame.eq_of_classes
  | plain _ | wrapped _ _ | foreign _ => simp [blame, classes]

end Fault

end ScenarioCompiler
