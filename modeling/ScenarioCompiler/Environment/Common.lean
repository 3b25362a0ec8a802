import ScenarioCompiler.Failure
import ScenarioCompiler.Settings.Basic
import ScenarioCompiler.Text.Blank

namespace ScenarioCompiler

/-- The switches of a connector that choose how its container authenticates. -/
structure IdentityFlags where
  managed : Option Bool := none
  customerRegistration : Option Bool := none
  deriving DecidableEq, Repr

/-- What the shared variables of a run are made of. -/
structure RunIds where
  csmSimulationId : String
  organizationId : String
  workspaceId : String
  workspaceKey : String
  scenarioId : String
  deriving DecidableEq, Repr

namespace Environment

def datasetPath : String := "/mnt/scenariorun-data"

def parametersPath : String := "/mnt/scenariorun-parameters"

/-- The scopes with which containers call the platform, separated by commas; without any, those of
the application itself. -/
def containerScopes (settings : PlatformSettings) : String :=
  let ownScope := (match settings.azure with
    | some azure => azure.appIdUri
    | none => "") ++ "/.default"
  match settings.identityProvider with
  | none => ownScope
  | some provider =>
    let scopes := ",".intercalate provider.containerScopes.names
    if Text.isBlankText scopes && provider.code = "azure" then ownScope else scopes

def require (value : Option String) (property : String) : Except Failure String :=
  match value with
  | some value => .ok value
  | none => .error (.missingConfiguration property)

def customerProperty : String := "csm.platform.azure.credentials.customer"

/-- The identity with which a container authenticates: the managed one, the one of the customer's
registration, or the one of the platform. -/
def identity (settings : PlatformSettings) (flags : IdentityFlags) :
    Except Failure (Table String) :=
  let managed := flags.managed == some true
  let customer := flags.customerRegistration == some true
  if managed && customer then .error .conflictingAuthentication
  else if managed then .ok [("CSM_AZURE_MANAGED_IDENTITY", "true")]
  else match settings.azure with
    | none => .error (.missingConfiguration "csm.platform.azure.credentials")
    | some azure =>
      if customer then
        match azure.credentials.customer with
        | none => .error (.missingConfiguration customerProperty)
        | some credentials => do
          let tenantId ← require credentials.tenantId (customerProperty ++ ".tenantId")
          let clientId ← require credentials.clientId (customerProperty ++ ".clientId")
          let clientSecret ← require credentials.clientSecret (customerProperty ++ ".clientSecret")
          pure [("AZURE_TENANT_ID", tenantId), ("AZURE_CLIENT_ID", clientId),
            ("AZURE_CLIENT_SECRET", clientSecret)]
      else
        let core := azure.credentials.core
        .ok [("AZURE_TENANT_ID", core.tenantId), ("AZURE_CLIENT_ID", core.clientId),
          ("AZURE_CLIENT_SECRET", core.clientSecret)]

/-- The variables that do not depend on the way of authentication. -/
def platform (settings : PlatformSettings) (ids : RunIds) : Table String :=
  let warehouse := settings.azure.bind (·.dataWarehouseCluster)
  [ ("IDENTITY_PROVIDER", match settings.identityProvider with
      | some provider => provider.code
      | none => "azure"),
    ("CSM_SIMULATION_ID", ids.csmSimulationId),
    ("CSM_API_URL", settings.api.baseUrl),
    ("CSM_API_SCOPE", containerScopes settings),
    ("CSM_DATASET_ABSOLUTE_PATH", datasetPath),
    ("CSM_PARAMETERS_ABSOLUTE_PATH", parametersPath),
    ("AZURE_DATA_EXPLORER_RESOURCE_URI", match warehouse with
      | some warehouse => warehouse.baseUri
      | none => ""),
    ("AZURE_DATA_EXPLORER_RESOURCE_INGEST_URI", match warehouse.bind (·.options) with
      | some options => options.ingestionUri
      | none => ""),
    ("AZURE_DATA_EXPLORER_DATABASE_NAME", ids.organizationId ++ "-" ++ ids.workspaceKey),
    ("CSM_ORGANIZATION_ID", ids.organizationId),
    ("CSM_WORKSPACE_ID", ids.workspaceId),
    ("CSM_SCENARIO_ID", ids.scenarioId)]

/-- The variables of the identity provider Okta, if it is the one in use. -/
def okta (settings : PlatformSettings) : Except Failure (Table String) :=
  match settings.identityProvider with
  | none => .ok []
  | some provider =>
    if provider.code = "okta" then
      match settings.okta with
      | none => .error (.missingConfiguration "csm.platform.okta")
      | some okta => .ok [("OKTA_CLIENT_ID", okta.clientId),
          ("OKTA_CLIENT_SECRET", okta.clientSecret), ("OKTA_CLIENT_ISSUER", okta.issuer)]
    else .ok []

def twinCache (settings : PlatformSettings) : Table String :=
  match settings.twincache with
  | none => []
  | some cache => [("TWIN_CACHE_HOST", cache.host), ("TWIN_CACHE_PORT", cache.port),
      ("TWIN_CACHE_PASSWORD", cache.password), ("TWIN_CACHE_USERNAME", cache.username)]

/-- The variables that all containers of a run share. -/
def common (settings : PlatformSettings) (ids : RunIds) (flags : IdentityFlags) :
    Except Failure Bindings := do
  let identity ← identity settings flags
  let okta ← okta settings
  pure (.ofEntries (identity ++ platform settings ids ++ okta ++ twinCache settings))

end Environment

end ScenarioCompiler
