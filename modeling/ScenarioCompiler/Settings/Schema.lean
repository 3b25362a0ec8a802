import ScenarioCompiler.Schema.Decoder
import ScenarioCompiler.Settings.Basic

namespace ScenarioCompiler.Settings

open Schema Schema.Decoder Schema.Fields

def optionalText : Option String → Json := Json.ofOption .str

namespace Api

def decoder : Decoder Api := record "Api" .forbidden <|
  Api.mk <$> optional "version" text <*> required "baseUrl" text <*> optional "basePath" text

def toJson (x : Api) : Json := .obj [
  ("version", optionalText x.version),
  ("baseUrl", .str x.baseUrl),
  ("basePath", optionalText x.basePath)]

end Api

namespace IdentityProvider

def decoder : Decoder IdentityProvider := record "IdentityProvider" .forbidden <|
  IdentityProvider.mk <$> withDefault "code" text "azure"
    <*> optional "authorizationUrl" text
    <*> optional "tokenUrl" text
    <*> withDefault "defaultScopes" bindings .empty
    <*> withDefault "containerScopes" bindings .empty
    <*> optional "serverBaseUrl" text

def toJson (x : IdentityProvider) : Json := .obj [
  ("code", .str x.code),
  ("authorizationUrl", optionalText x.authorizationUrl),
  ("tokenUrl", optionalText x.tokenUrl),
  ("defaultScopes", x.defaultScopes.toJson),
  ("containerScopes", x.containerScopes.toJson),
  ("serverBaseUrl", optionalText x.serverBaseUrl)]

end IdentityProvider

namespace Okta

def decoder : Decoder Okta := record "Okta" .forbidden <|
  Okta.mk <$> required "clientId" text <*> required "clientSecret" text
    <*> required "issuer" text <*> optional "audience" text

def toJson (x : Okta) : Json := .obj [
  ("clientId", .str x.clientId),
  ("clientSecret", .str x.clientSecret),
  ("issuer", .str x.issuer),
  ("audience", optionalText x.audience)]

end Okta

namespace CoreCredentials

def decoder : Decoder CoreCredentials := record "AzureCredentialsCore" .forbidden <|
  CoreCredentials.mk <$> required "tenantId" text <*> required "clientId" text
    <*> required "clientSecret" text <*> optional "aadPodIdBinding" text

def toJson (x : CoreCredentials) : Json := .obj [
  ("tenantId", .str x.tenantId),
  ("clientId", .str x.clientId),
  ("clientSecret", .str x.clientSecret),
  ("aadPodIdBinding", optionalText x.aadPodIdBinding)]

end CoreCredentials

namespace CustomerCredentials

def decoder : Decoder CustomerCredentials := record "AzureCredentialsCustomer" .forbidden <|
  CustomerCredentials.mk <$> optional "tenantId" text <*> optional "clientId" text
    <*> optional "clientSecret" text

def toJson (x : CustomerCredentials) : Json := .obj [
  ("tenantId", optionalText x.tenantId),
  ("clientId", optionalText x.clientId),
  ("clientSecret", optionalText x.clientSecret)]

end CustomerCredentials

namespace Credentials

def decoder : Decoder Credentials := record "AzureCredentials" .forbidden <|
  Credentials.mk <$> required "core" CoreCredentials.decoder
    <*> optional "customer" CustomerCredentials.decoder

def toJson (x : Credentials) : Json := .obj [
  ("core", x.core.toJson),
  ("customer", Json.ofOption CustomerCredentials.toJson x.customer)]

end Credentials

namespace Storage

def decoder : Decoder Storage := record "AzureStorage" .forbidden <|
  Storage.mk <$> withDefault "connectionString" text "" <*> optional "baseUri" text
    <*> optional "resourceUri" text

def toJson (x : Storage) : Json := .obj [
  ("connectionString", .str x.connectionString),
  ("baseUri", optionalText x.baseUri),
  ("resourceUri", optionalText x.resourceUri)]

end Storage

namespace Registries

def decoder : Decoder Registries := record "ContainerRegistries" .forbidden <|
  Registries.mk <$> withDefault "core" text "" <*> withDefault "solutions" text ""

def toJson (x : Registries) : Json := .obj [
  ("core", .str x.core),
  ("solutions", .str x.solutions)]

end Registries

namespace EventBusStrategy

def code : EventBusStrategy → String
  | tenantClientCredentials => "TENANT_CLIENT_CREDENTIALS"
  | sharedAccessPolicy => "SHARED_ACCESS_POLICY"

def decoder : Decoder EventBusStrategy :=
  member (code tenantClientCredentials, tenantClientCredentials)
    [(code sharedAccessPolicy, sharedAccessPolicy)]

end EventBusStrategy

namespace PolicyCredentials

def decoder : Decoder PolicyCredentials := record "SharedAccessPolicyCredentials" .forbidden <|
  PolicyCredentials.mk <$> optional "name" text <*> optional "key" text

def toJson (x : PolicyCredentials) : Json := .obj [
  ("name", optionalText x.name),
  ("key", optionalText x.key)]

end PolicyCredentials

namespace PolicyDetails

def decoder : Decoder PolicyDetails := record "SharedAccessPolicyDetails" .forbidden <|
  PolicyDetails.mk <$> optional "namespace" PolicyCredentials.decoder

def toJson (x : PolicyDetails) : Json := .obj [
  ("namespace", Json.ofOption PolicyCredentials.toJson x.namespaceCredentials)]

end PolicyDetails

namespace EventBusAuthentication

def decoder : Decoder EventBusAuthentication := record "EventBusAuthentication" .forbidden <|
  EventBusAuthentication.mk
    <$> withDefault "strategy" EventBusStrategy.decoder .tenantClientCredentials
    <*> optional "sharedAccessPolicy" PolicyDetails.decoder

def toJson (x : EventBusAuthentication) : Json := .obj [
  ("strategy", .str x.strategy.code),
  ("sharedAccessPolicy", Json.ofOption PolicyDetails.toJson x.sharedAccessPolicy)]

end EventBusAuthentication

namespace EventBus

def decoder : Decoder EventBus := record "EventBus" .forbidden <|
  EventBus.mk <$> required "baseUri" text
    <*> withDefault "authentication" EventBusAuthentication.decoder {}

def toJson (x : EventBus) : Json := .obj [
  ("baseUri", .str x.baseUri),
  ("authentication", x.authentication.toJson)]

end EventBus

namespace WarehouseOptions

def decoder : Decoder WarehouseOptions := record "DataWarehouseClusterOptions" .forbidden <|
  WarehouseOptions.mk <$> withDefault "ingestionUri" text ""

def toJson (x : WarehouseOptions) : Json := .obj [("ingestionUri", .str x.ingestionUri)]

end WarehouseOptions

namespace Warehouse

def decoder : Decoder Warehouse := record "DataWarehouseCluster" .forbidden <|
  Warehouse.mk <$> withDefault "baseUri" text "" <*> optional "options" WarehouseOptions.decoder

def toJson (x : Warehouse) : Json := .obj [
  ("baseUri", .str x.baseUri),
  ("options", Json.ofOption WarehouseOptions.toJson x.options)]

end Warehouse

namespace Azure

def decoder : Decoder Azure := record "Azure" .forbidden <|
  Azure.mk <$> required "credentials" Credentials.decoder
    <*> withDefault "storage" Storage.decoder {}
    <*> withDefault "containerRegistries" Registries.decoder {}
    <*> optional "eventBus" EventBus.decoder
    <*> optional "dataWarehouseCluster" Warehouse.decoder
    <*> withDefault "appIdUri" text ""

def toJson (x : Azure) : Json := .obj [
  ("credentials", x.credentials.toJson),
  ("storage", x.storage.toJson),
  ("containerRegistries", x.containerRegistries.toJson),
  ("eventBus", Json.ofOption EventBus.toJson x.eventBus),
  ("dataWarehouseCluster", Json.ofOption Warehouse.toJson x.dataWarehouseCluster),
  ("appIdUri", .str x.appIdUri)]

end Azure

namespace TwinCache

def decoder : Decoder TwinCache := record "TwinCache" .forbidden <|
  TwinCache.mk <$> required "host" text <*> withDefault "port" textOrInteger "6379"
    <*> withDefault "username" text "default" <*> required "password" text

def toJson (x : TwinCache) : Json := .obj [
  ("host", .str x.host),
  ("port", .str x.port),
  ("username", .str x.username),
  ("password", .str x.password)]

end TwinCache

namespace Images

def decoder : Decoder Images := record "Images" .forbidden <|
  Images.mk <$> required "scenarioFetchParameters" text <*> required "sendDataWarehouse" text

def toJson (x : Images) : Json := .obj [
  ("scenarioFetchParameters", .str x.scenarioFetchParameters),
  ("sendDataWarehouse", .str x.sendDataWarehouse)]

end Images

namespace Workflows

def decoder : Decoder Workflows := record "ArgoWorkflows" .forbidden <|
  Workflows.mk <$> optional "namespace" text
    <*> withDefault "nodePoolLabel" text "agentpool"
    <*> optional "serviceAccountName" text
    <*> optional "storageClass" text
    <*> withDefault "accessModes" (list text) []
    <*> withDefault "requests" bindings .empty

def toJson (x : Workflows) : Json := .obj [
  ("namespace", optionalText x.kubernetesNamespace),
  ("nodePoolLabel", .str x.nodePoolLabel),
  ("serviceAccountName", optionalText x.serviceAccountName),
  ("storageClass", optionalText x.storageClass),
  ("accessModes", Json.ofStrings x.accessModes),
  ("requests", x.requests.toJson)]

end Workflows

namespace Argo

def decoder : Decoder Argo := record "Argo" .forbidden <|
  Argo.mk <$> optional "baseUri" text
    <*> withDefault "imagePullPolicy" text "IfNotPresent"
    <*> optional "imagePullSecrets" (list text)
    <*> withDefault "workflows" Workflows.decoder {}

def toJson (x : Argo) : Json := .obj [
  ("baseUri", optionalText x.baseUri),
  ("imagePullPolicy", .str x.imagePullPolicy),
  ("imagePullSecrets", Json.ofOption Json.ofStrings x.imagePullSecrets),
  ("workflows", x.workflows.toJson)]

end Argo

end ScenarioCompiler.Settings

namespace ScenarioCompiler.PlatformSettings

open Schema Schema.Decoder Schema.Fields Settings

/-- Other entries of the platform's configuration are none of the compiler's business. -/
def decoder : Decoder PlatformSettings := record "PlatformSettings" .ignored <|
  PlatformSettings.mk <$> optional "summary" text
    <*> optional "description" text
    <*> optional "version" text
    <*> required "api" Api.decoder
    <*> optional "identityProvider" IdentityProvider.decoder
    <*> optional "okta" Okta.decoder
    <*> optional "azure" Azure.decoder
    <*> optional "twincache" TwinCache.decoder
    <*> required "images" Images.decoder
    <*> withDefault "argo" Argo.decoder {}

def toJson (x : PlatformSettings) : Json := .obj [
  ("summary", optionalText x.summary),
  ("description", optionalText x.description),
  ("version", optionalText x.version),
  ("api", x.api.toJson),
  ("identityProvider", Json.ofOption IdentityProvider.toJson x.identityProvider),
  ("okta", Json.ofOption Okta.toJson x.okta),
  ("azure", Json.ofOption Azure.toJson x.azure),
  ("twincache", Json.ofOption TwinCache.toJson x.twincache),
  ("images", x.images.toJson),
  ("argo", x.argo.toJson)]

end ScenarioCompiler.PlatformSettings
