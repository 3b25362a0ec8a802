import ScenarioCompiler.Request.Basic
import ScenarioCompiler.Schema.Decoder

namespace ScenarioCompiler

open Schema Schema.Decoder Schema.Fields

namespace ResourceSize

def decoder : Decoder ResourceSize := record "ResourceSizeInfo" .ignored <|
  ResourceSize.mk <$> required "cpu" text <*> required "memory" text

def toJson (x : ResourceSize) : Json := .obj [("cpu", .str x.cpu), ("memory", .str x.memory)]

end ResourceSize

namespace ResourceSizing

def decoder : Decoder ResourceSizing := record "ResourceSizing" .ignored <|
  ResourceSizing.mk <$> required "requests" ResourceSize.decoder
    <*> required "limits" ResourceSize.decoder

def toJson (x : ResourceSizing) : Json := .obj [
  ("requests", x.requests.toJson),
  ("limits", x.limits.toJson)]

end ResourceSizing

namespace Organization

def decoder : Decoder Organization := record "Organization" .ignored <|
  Organization.mk <$> required "id" text <*> optional "name" text

def toJson (x : Organization) : Json := .obj [
  ("id", .str x.id),
  ("name", Json.ofOption .str x.name)]

end Organization

namespace Workspace

def decoder : Decoder Workspace := record "Workspace" .ignored <|
  Workspace.mk <$> required "id" text <*> required "key" text <*> optional "name" text
    <*> optional "useDedicatedEventHubNamespace" bool
    <*> optional "sendInputToDataWarehouse" bool

def toJson (x : Workspace) : Json := .obj [
  ("id", .str x.id),
  ("key", .str x.key),
  ("name", Json.ofOption .str x.name),
  ("useDedicatedEventHubNamespace", Json.ofOption .bool x.useDedicatedEventHubNamespace),
  ("sendInputToDataWarehouse", Json.ofOption .bool x.sendInputToDataWarehouse)]

end Workspace

namespace ParameterValue

def decoder : Decoder ParameterValue := record "ParameterValue" .ignored <|
  ParameterValue.mk <$> required "parameterId" text <*> withDefault "value" text ""
    <*> optional "varType" text

def toJson (x : ParameterValue) : Json := .obj [
  ("parameterId", .str x.parameterId),
  ("value", .str x.value),
  ("varType", Json.ofOption .str x.varType)]

end ParameterValue

namespace Scenario

def decoder : Decoder Scenario := record "Scenario" .ignored <|
  Scenario.mk <$> required "id" text <*> optional "name" text
    <*> required "runTemplateId" text
    <*> withDefault "datasetList" (list text) []
    <*> withDefault "parametersValues" (list ParameterValue.decoder) []
    <*> optional "resourceSizing" ResourceSizing.decoder

def toJson (x : Scenario) : Json := .obj [
  ("id", .str x.id),
  ("name", Json.ofOption .str x.name),
  ("runTemplateId", .str x.runTemplateId),
  ("datasetList", Json.ofStrings x.datasetList),
  ("parametersValues", .arr (x.parametersValues.map ParameterValue.toJson)),
  ("resourceSizing", Json.ofOption ResourceSizing.toJson x.resourceSizing)]

end Scenario

namespace StepSource

def code : StepSource → String
  | «local» => "local"
  | cloud => "cloud"
  | platform => "platform"
  | git => "git"

def decoder : Decoder StepSource :=
  member (code «local», «local»)
    [(code cloud, cloud), (code platform, platform), (code git, git)]

def toJson (x : StepSource) : Json := .str x.code

end StepSource

namespace RunTemplate

def decoder [IntegerReader] : Decoder RunTemplate := record "RunTemplate" .ignored <|
  RunTemplate.mk <$> required "id" text <*> optional "name" text
    <*> optional "csmSimulation" text
    <*> optional "computeSize" text
    <*> optional "resourceSizing" ResourceSizing.decoder
    <*> optional "parametersJson" bool
    <*> optional "fetchDatasets" bool
    <*> optional "fetchScenarioParameters" bool
    <*> optional "applyParameters" bool
    <*> optional "validateData" bool
    <*> optional "sendDatasetsToDataWarehouse" bool
    <*> optional "sendInputParametersToDataWarehouse" bool
    <*> optional "preRun" bool
    <*> optional "run" bool
    <*> optional "postRun" bool
    <*> optional "stackSteps" bool
    <*> optional "parametersHandlerSource" StepSource.decoder
    <*> optional "datasetValidatorSource" StepSource.decoder
    <*> optional "preRunSource" StepSource.decoder
    <*> optional "runSource" StepSource.decoder
    <*> optional "postRunSource" StepSource.decoder
    <*> optional "gitRepositoryUrl" text
    <*> optional "gitBranchName" text
    <*> optional "runTemplateSourceDir" text
    <*> optional "parameterGroups" (list text)
    <*> optional "executionTimeout" integer

def toJson (x : RunTemplate) : Json := .obj [
  ("id", .str x.id),
  ("name", Json.ofOption .str x.name),
  ("csmSimulation", Json.ofOption .str x.csmSimulation),
  ("computeSize", Json.ofOption .str x.computeSize),
  ("resourceSizing", Json.ofOption ResourceSizing.toJson x.resourceSizing),
  ("parametersJson", Json.ofOption .bool x.parametersJson),
  ("fetchDatasets", Json.ofOption .bool x.fetchDatasets),
  ("fetchScenarioParameters", Json.ofOption .bool x.fetchScenarioParameters),
  ("applyParameters", Json.ofOption .bool x.applyParameters),
  ("validateData", Json.ofOption .bool x.validateData),
  ("sendDatasetsToDataWarehouse", Json.ofOption .bool x.sendDatasetsToDataWarehouse),
  ("sendInputParametersToDataWarehouse",
    Json.ofOption .bool x.sendInputParametersToDataWarehouse),
  ("preRun", Json.ofOption .bool x.preRun),
  ("run", Json.ofOption .bool x.run),
  ("postRun", Json.ofOption .bool x.postRun),
  ("stackSteps", Json.ofOption .bool x.stackSteps),
  ("parametersHandlerSource", Json.ofOption StepSource.toJson x.parametersHandlerSource),
  ("datasetValidatorSource", Json.ofOption StepSource.toJson x.datasetValidatorSource),
  ("preRunSource", Json.ofOption StepSource.toJson x.preRunSource),
  ("runSource", Json.ofOption StepSource.toJson x.runSource),
  ("postRunSource", Json.ofOption StepSource.toJson x.postRunSource),
  ("gitRepositoryUrl", Json.ofOption .str x.gitRepositoryUrl),
  ("gitBranchName", Json.ofOption .str x.gitBranchName),
  ("runTemplateSourceDir", Json.ofOption .str x.runTemplateSourceDir),
  ("parameterGroups", Json.ofOption Json.ofStrings x.parameterGroups),
  ("executionTimeout", Json.ofOption .int x.executionTimeout)]

end RunTemplate

namespace SolutionParameter

def decoder : Decoder SolutionParameter := record "RunTemplateParameter" .ignored <|
  SolutionParameter.mk <$> required "id" text <*> optional "varType" text
    <*> optional "defaultValue" text

def toJson (x : SolutionParameter) : Json := .obj [
  ("id", .str x.id),
  ("varType", Json.ofOption .str x.varType),
  ("defaultValue", Json.ofOption .str x.defaultValue)]

end SolutionParameter

namespace SolutionParameterGroup

def decoder : Decoder SolutionParameterGroup := record "RunTemplateParameterGroup" .ignored <|
  SolutionParameterGroup.mk <$> required "id" text <*> withDefault "parameters" (list text) []

def toJson (x : SolutionParameterGroup) : Json := .obj [
  ("id", .str x.id),
  ("parameters", Json.ofStrings x.parameters)]

end SolutionParameterGroup

namespace Solution

def decoder [IntegerReader] : Decoder Solution := record "Solution" .ignored <|
  Solution.mk <$> required "id" text <*> optional "key" text <*> optional "name" text
    <*> required "repository" text
    <*> optional "version" text
    <*> optional "alwaysPull" bool
    <*> withDefault "runTemplates" (list RunTemplate.decoder) []
    <*> withDefault "parameters" (list SolutionParameter.decoder) []
    <*> withDefault "parameterGroups" (list SolutionParameterGroup.decoder) []

def toJson (x : Solution) : Json := .obj [
  ("id", .str x.id),
  ("key", Json.ofOption .str x.key),
  ("name", Json.ofOption .str x.name),
  ("repository", .str x.repository),
  ("version", Json.ofOption .str x.version),
  ("alwaysPull", Json.ofOption .bool x.alwaysPull),
  ("runTemplates", .arr (x.runTemplates.map RunTemplate.toJson)),
  ("parameters", .arr (x.parameters.map SolutionParameter.toJson)),
  ("parameterGroups", .arr (x.parameterGroups.map SolutionParameterGroup.toJson))]

end Solution

namespace ConnectorParameter

def decoder : Decoder ConnectorParameter := record "ConnectorParameter" .ignored <|
  ConnectorParameter.mk <$> required "id" text <*> optional "label" text
    <*> optional "valueType" text <*> optional "default" text <*> optional "envVar" text

def toJson (x : ConnectorParameter) : Json := .obj [
  ("id", .str x.id),
  ("label", Json.ofOption .str x.label),
  ("valueType", Json.ofOption .str x.valueType),
  ("default", Json.ofOption .str x.default),
  ("envVar", Json.ofOption .str x.envVar)]

end ConnectorParameter

namespace ConnectorParameterGroup

def decoder : Decoder ConnectorParameterGroup := record "ConnectorParameterGroup" .ignored <|
  ConnectorParameterGroup.mk <$> required "id" text <*> optional "label" text
    <*> withDefault "parameters" (list ConnectorParameter.decoder) []

def toJson (x : ConnectorParameterGroup) : Json := .obj [
  ("id", .str x.id),
  ("label", Json.ofOption .str x.label),
  ("parameters", .arr (x.parameters.map ConnectorParameter.toJson))]

end ConnectorParameterGroup

namespace Connector

def decoder : Decoder Connector := record "Connector" .ignored <|
  Connector.mk <$> required "id" text <*> optional "key" text <*> optional "name" text
    <*> required "repository" text
    <*> optional "version" text
    <*> optional "azureManagedIdentity" bool
    <*> optional "azureAuthenticationWithCustomerAppRegistration" bool
    <*> withDefault "parameterGroups" (list ConnectorParameterGroup.decoder) []

def toJson (x : Connector) : Json := .obj [
  ("id", .str x.id),
  ("key", Json.ofOption .str x.key),
  ("name", Json.ofOption .str x.name),
  ("repository", .str x.repository),
  ("version", Json.ofOption .str x.version),
  ("azureManagedIdentity", Json.ofOption .bool x.azureManagedIdentity),
  ("azureAuthenticationWithCustomerAppRegistration",
    Json.ofOption .bool x.azureAuthenticationWithCustomerAppRegistration),
  ("parameterGroups", .arr (x.parameterGroups.map ConnectorParameterGroup.toJson))]

end Connector

namespace DatasetConnector

def decoder : Decoder DatasetConnector := record "DatasetConnector" .ignored <|
  DatasetConnector.mk <$> optional "id" text <*> optional "name" text
    <*> optional "version" text <*> withDefault "parametersValues" bindings .empty

def toJson (x : DatasetConnector) : Json := .obj [
  ("id", Json.ofOption .str x.id),
  ("name", Json.ofOption .str x.name),
  ("version", Json.ofOption .str x.version),
  ("parametersValues", x.parametersValues.toJson)]

end DatasetConnector

namespace Dataset

def decoder : Decoder Dataset := record "Dataset" .ignored <|
  Dataset.mk <$> required "id" text <*> optional "name" text
    <*> optional "connector" DatasetConnector.decoder

def toJson (x : Dataset) : Json := .obj [
  ("id", .str x.id),
  ("name", Json.ofOption .str x.name),
  ("connector", Json.ofOption DatasetConnector.toJson x.connector)]

end Dataset

namespace RunRequest

def decoder [IntegerReader] : Decoder RunRequest := record "RunRequest" .forbidden <|
  RunRequest.mk <$> required "organization" Organization.decoder
    <*> required "workspace" Workspace.decoder
    <*> required "solution" Solution.decoder
    <*> required "scenario" Scenario.decoder
    <*> withDefault "datasets" (list Dataset.decoder) []
    <*> withDefault "connectors" (list Connector.decoder) []
    <*> optional "csmSimulationId" text
    <*> optional "labels" bindings

def toJson (x : RunRequest) : Json := .obj [
  ("organization", x.organization.toJson),
  ("workspace", x.workspace.toJson),
  ("solution", x.solution.toJson),
  ("scenario", x.scenario.toJson),
  ("datasets", .arr (x.datasets.map Dataset.toJson)),
  ("connectors", .arr (x.connectors.map Connector.toJson)),
  ("csmSimulationId", Json.ofOption .str x.csmSimulationId),
  ("labels", Json.ofOption Bindings.toJson x.labels)]

end RunRequest

end ScenarioCompiler
