import ScenarioCompiler.Proofs.Outcome
import ScenarioCompiler.Step.Fetch
import ScenarioCompiler.Step.Solution
import ScenarioCompiler.Step.Warehouse

namespace ScenarioCompiler

namespace PlatformSettings

/-- The settings with a change of the cloud platform, where there is one. -/
def mapAzure (settings : PlatformSettings) (f : Settings.Azure → Settings.Azure) :
    PlatformSettings :=
  { settings with azure := settings.azure.map f }

/-- The settings with other credentials of the customer. -/
def withCustomer (settings : PlatformSettings) (customer : Option Settings.CustomerCredentials) :
    PlatformSettings :=
  settings.mapAzure fun azure => { azure with credentials := { azure.credentials with customer } }

/-- The settings with another identity of the platform itself. -/
def withCoreIdentity (settings : PlatformSettings) (tenantId clientId clientSecret : String) :
    PlatformSettings :=
  settings.mapAzure fun azure => { azure with
    credentials := { azure.credentials with
      core := { azure.credentials.core with tenantId, clientId, clientSecret } } }

/-- The settings with another event bus. -/
def withEventBus (settings : PlatformSettings) (eventBus : Option Settings.EventBus) :
    PlatformSettings :=
  settings.mapAzure fun azure => { azure with eventBus }

end PlatformSettings

/-- A change of the credentials or of the event bus only. -/
structure KeepsResources (f : Settings.Azure → Settings.Azure) : Prop where
  storage : ∀ azure, (f azure).storage = azure.storage
  registries : ∀ azure, (f azure).containerRegistries = azure.containerRegistries
  warehouse : ∀ azure, (f azure).dataWarehouseCluster = azure.dataWarehouseCluster
  appIdUri : ∀ azure, (f azure).appIdUri = azure.appIdUri
  podIdBinding : ∀ azure, (f azure).credentials.core.aadPodIdBinding =
    azure.credentials.core.aadPodIdBinding

variable {settings : PlatformSettings} {f : Settings.Azure → Settings.Azure}

namespace Environment

variable {flags : IdentityFlags} {ids : RunIds}

theorem containerScopes_mapAzure (hf : KeepsResources f) :
    containerScopes (settings.mapAzure f) = containerScopes settings := by
  unfold containerScopes PlatformSettings.mapAzure
  cases settings.azure <;> simp [hf.appIdUri]

theorem platform_mapAzure (hf : KeepsResources f) :
    platform (settings.mapAzure f) ids = platform settings ids := by
  unfold platform
  rw [containerScopes_mapAzure hf]
  unfold PlatformSettings.mapAzure
  cases settings.azure <;> simp [hf.warehouse]

/-- Changed credentials reach the shared variables only through the identity. -/
theorem common_mapAzure (hf : KeepsResources f)
    (hi : identity (settings.mapAzure f) flags = identity settings flags) :
    common (settings.mapAzure f) ids flags = common settings ids flags := by
  unfold common
  rw [hi, platform_mapAzure hf]
  rfl

theorem identity_withCustomer {customer : Option Settings.CustomerCredentials}
    (h : flags.customerRegistration ≠ some true) :
    identity (settings.withCustomer customer) flags = identity settings flags := by
  have hc : (flags.customerRegistration == some true) = false := by simpa using h
  unfold identity PlatformSettings.withCustomer PlatformSettings.mapAzure
  simp only [hc]
  cases settings.azure <;> rfl

theorem identity_withCoreIdentity {tenantId clientId clientSecret : String}
    (h : flags.managed = some true ∨ flags.customerRegistration = some true) :
    identity (settings.withCoreIdentity tenantId clientId clientSecret) flags =
      identity settings flags := by
  unfold identity PlatformSettings.withCoreIdentity PlatformSettings.mapAzure
  rcases h with h | h
  · simp [h]
  · cases settings.azure <;> simp [h]

theorem identity_withEventBus {eventBus : Option Settings.EventBus} :
    identity (settings.withEventBus eventBus) flags = identity settings flags := by
  unfold identity PlatformSettings.withEventBus PlatformSettings.mapAzure
  cases settings.azure <;> rfl

end Environment

namespace ConnectorBinding

theorem resolve_mapAzure (hf : KeepsResources f) (value organizationId workspaceId : String)
    (envBound : Bool) :
    Placeholder.resolve (settings.mapAzure f) value organizationId workspaceId envBound =
      Placeholder.resolve settings value organizationId workspaceId envBound := by
  unfold Placeholder.resolve PlatformSettings.mapAzure
  cases settings.azure <;> simp [hf.storage]

theorem of_mapAzure (hf : KeepsResources f) (connector : Connector) (dataset : Dataset)
    (organizationId workspaceId : String) :
    of (settings.mapAzure f) connector dataset organizationId workspaceId =
      of settings connector dataset organizationId workspaceId := by
  have hr : ∀ value, Placeholder.resolve (settings.mapAzure f) value organizationId workspaceId =
      Placeholder.resolve settings value organizationId workspaceId :=
    fun value => funext fun envBound => resolve_mapAzure hf value _ _ envBound
  unfold of
  simp only [hr]

end ConnectorBinding

namespace Step

variable {run : RunContext} {dataset : Dataset} {connector : Connector} {target : FetchTarget}
  {dependencies : Option (List String)}

theorem coreRegistry_mapAzure (hf : KeepsResources f) :
    RunContext.coreRegistry { run with settings := run.settings.mapAzure f } =
      run.coreRegistry := by
  unfold RunContext.coreRegistry PlatformSettings.mapAzure
  cases run.settings.azure <;> simp [hf.registries]

theorem common_mapAzure (hf : KeepsResources f) {flags : IdentityFlags}
    (hi : Environment.identity (run.settings.mapAzure f) flags =
      Environment.identity run.settings flags) :
    RunContext.common { run with settings := run.settings.mapAzure f } flags =
      run.common flags :=
  Environment.common_mapAzure hf hi

theorem identityLabels_mapAzure (hf : KeepsResources f) (connector : Connector) :
    identityLabels (settings.mapAzure f) connector = identityLabels settings connector := by
  unfold identityLabels PlatformSettings.mapAzure
  cases settings.azure <;> simp [hf.podIdBinding]

theorem fetchDataset_mapAzure (hf : KeepsResources f)
    (hi : Environment.identity (run.settings.mapAzure f) (identityFlags connector) =
      Environment.identity run.settings (identityFlags connector)) :
    fetchDataset { run with settings := run.settings.mapAzure f } dataset connector target
        dependencies = fetchDataset run dataset connector target dependencies := by
  unfold fetchDataset
  rw [coreRegistry_mapAzure hf, common_mapAzure hf hi]
  dsimp only
  rw [ConnectorBinding.of_mapAzure hf, identityLabels_mapAzure hf]

theorem fetchParameters_mapAzure (hf : KeepsResources f)
    (hi : Environment.identity (run.settings.mapAzure f) {} =
      Environment.identity run.settings {}) (asJson : Option Bool) :
    fetchParameters { run with settings := run.settings.mapAzure f } asJson dependencies =
      fetchParameters run asJson dependencies := by
  unfold fetchParameters
  rw [coreRegistry_mapAzure hf, common_mapAzure hf hi]
  rfl

theorem sendToWarehouse_mapAzure (hf : KeepsResources f)
    (hi : Environment.identity (run.settings.mapAzure f) {} =
      Environment.identity run.settings {}) (content : WarehouseContent) :
    sendToWarehouse { run with settings := run.settings.mapAzure f } content dependencies =
      sendToWarehouse run content dependencies := by
  unfold sendToWarehouse
  rw [coreRegistry_mapAzure hf, common_mapAzure hf hi]
  rfl

theorem runSolution_mapAzure (hf : KeepsResources f)
    (hi : Environment.identity (run.settings.mapAzure f) {} =
      Environment.identity run.settings {})
    (hb : ∀ azure, (f azure).eventBus = azure.eventBus) (checker : EventHubChecker)
    (solution : Solution) (templateId : String) (step : SolutionStep)
    (sizing : Option ResourceSizing) :
    runSolution { run with settings := run.settings.mapAzure f } checker solution templateId step
        dependencies sizing =
      runSolution run checker solution templateId step dependencies sizing := by
  have hhub : EventHub.environment (run.settings.mapAzure f) run.organization run.workspace
      checker = EventHub.environment run.settings run.organization run.workspace checker := by
    unfold EventHub.environment PlatformSettings.mapAzure
    cases run.settings.azure <;> simp [hb]
  have hregistry : RunContext.solutionsRegistry
      { run with settings := run.settings.mapAzure f } = run.solutionsRegistry := by
    unfold RunContext.solutionsRegistry PlatformSettings.mapAzure
    cases run.settings.azure <;> simp [hf.registries]
  have hsource : ∀ template, sourceVariables { run with settings := run.settings.mapAzure f }
      solution template templateId step =
        sourceVariables run solution template templateId step := by
    intro template
    unfold sourceVariables PlatformSettings.mapAzure
    cases run.settings.azure <;> simp [hf.storage]
  unfold runSolution
  rw [common_mapAzure hf hi, hregistry]
  dsimp only
  rw [hhub]
  simp only [hsource]

end Step

end ScenarioCompiler
