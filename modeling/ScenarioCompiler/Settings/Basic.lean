import ScenarioCompiler.Bindings

namespace ScenarioCompiler.Settings

structure Api where
  version : Option String
  baseUrl : String
  basePath : Option String
  deriving DecidableEq, Repr

structure IdentityProvider where
  code : String
  authorizationUrl : Option String
  tokenUrl : Option String
  defaultScopes : Bindings
  containerScopes : Bindings
  serverBaseUrl : Option String
  deriving DecidableEq, Repr

structure Okta where
  clientId : String
  clientSecret : String
  issuer : String
  audience : Option String
  deriving DecidableEq, Repr

structure CoreCredentials where
  tenantId : String
  clientId : String
  clientSecret : String
  aadPodIdBinding : Option String
  deriving DecidableEq, Repr

structure CustomerCredentials where
  tenantId : Option String
  clientId : Option String
  clientSecret : Option String
  deriving DecidableEq, Repr

structure Credentials where
  core : CoreCredentials
  customer : Option CustomerCredentials
  deriving DecidableEq, Repr

structure Storage where
  connectionString : String := ""
  baseUri : Option String := none
  resourceUri : Option String := none
  deriving DecidableEq, Repr

structure Registries where
  core : String := ""
  solutions : String := ""
  deriving DecidableEq, Repr

/-- How containers prove who they are to the event bus. -/
inductive EventBusStrategy where
  | tenantClientCredentials
  | sharedAccessPolicy
  deriving DecidableEq, Repr

structure PolicyCredentials where
  name : Option String
  key : Option String
  deriving DecidableEq, Repr

structure PolicyDetails where
  namespaceCredentials : Option PolicyCredentials
  deriving DecidableEq, Repr

structure EventBusAuthentication where
  strategy : EventBusStrategy := .tenantClientCredentials
  sharedAccessPolicy : Option PolicyDetails := none
  deriving DecidableEq, Repr

structure EventBus where
  baseUri : String
  authentication : EventBusAuthentication
  deriving DecidableEq, Repr

structure WarehouseOptions where
  ingestionUri : String
  deriving DecidableEq, Repr

structure Warehouse where
  baseUri : String
  options : Option WarehouseOptions
  deriving DecidableEq, Repr

structure Azure where
  credentials : Credentials
  storage : Storage
  containerRegistries : Registries
  eventBus : Option EventBus
  dataWarehouseCluster : Option Warehouse
  appIdUri : String
  deriving DecidableEq, Repr

structure TwinCache where
  host : String
  port : String
  username : String
  password : String
  deriving DecidableEq, Repr

structure Images where
  scenarioFetchParameters : String
  sendDataWarehouse : String
  deriving DecidableEq, Repr

structure Workflows where
  kubernetesNamespace : Option String := none
  nodePoolLabel : String := "agentpool"
  serviceAccountName : Option String := none
  storageClass : Option String := none
  accessModes : List String := []
  requests : Bindings := .empty
  deriving DecidableEq, Repr

structure Argo where
  baseUri : Option String := none
  imagePullPolicy : String := "IfNotPresent"
  imagePullSecrets : Option (List String) := none
  workflows : Workflows := {}
  deriving DecidableEq, Repr

end ScenarioCompiler.Settings

namespace ScenarioCompiler

/-- What the platform tells the compiler about itself. -/
structure PlatformSettings where
  summary : Option String
  description : Option String
  version : Option String
  api : Settings.Api
  identityProvider : Option Settings.IdentityProvider
  okta : Option Settings.Okta
  azure : Option Settings.Azure
  twincache : Option Settings.TwinCache
  images : Settings.Images
  argo : Settings.Argo
  deriving DecidableEq, Repr

end ScenarioCompiler
