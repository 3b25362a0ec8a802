import ScenarioCompiler.Proofs.Outcome
import ScenarioCompiler.Proofs.Table
import ScenarioCompiler.Step.Solution

namespace ScenarioCompiler

/-- The value that a container finds under the name of a variable. -/
def Container.envValue? (c : Container) (name : String) : Option String :=
  c.envVars.bind (·.get? name)

/-- A container has all variables of another one, its mode apart, with the same values. -/
def Container.Keeps (c other : Container) : Prop :=
  ∀ name value, name ≠ containerModeVariable → other.envValue? name = some value →
    c.envValue? name = some value

namespace Environment

variable {settings : PlatformSettings} {flags : IdentityFlags} {ids : RunIds} {t : Table String}
  {b : Bindings}

def identityNames : List String :=
  ["CSM_AZURE_MANAGED_IDENTITY", "AZURE_TENANT_ID", "AZURE_CLIENT_ID", "AZURE_CLIENT_SECRET"]

def platformNames : List String :=
  ["IDENTITY_PROVIDER", "CSM_SIMULATION_ID", "CSM_API_URL", "CSM_API_SCOPE",
    "CSM_DATASET_ABSOLUTE_PATH", "CSM_PARAMETERS_ABSOLUTE_PATH",
    "AZURE_DATA_EXPLORER_RESOURCE_URI", "AZURE_DATA_EXPLORER_RESOURCE_INGEST_URI",
    "AZURE_DATA_EXPLORER_DATABASE_NAME", "CSM_ORGANIZATION_ID", "CSM_WORKSPACE_ID",
    "CSM_SCENARIO_ID"]

def oktaNames : List String := ["OKTA_CLIENT_ID", "OKTA_CLIENT_SECRET", "OKTA_CLIENT_ISSUER"]

def twinCacheNames : List String :=
  ["TWIN_CACHE_HOST", "TWIN_CACHE_PORT", "TWIN_CACHE_PASSWORD", "TWIN_CACHE_USERNAME"]

theorem names_identity (h : identity settings flags = .ok t) : Table.names t ⊆ identityNames := by
  unfold identity at h
  dsimp only at h
  split at h
  · simp at h
  · split at h
    · rw [← Except.ok.inj h]
      simp [Table.names, identityNames]
    · split at h
      · simp at h
      · split at h
        · split at h
          · simp at h
          · simp only [bind_eq_ok, pure_eq_ok] at h
            obtain ⟨_, -, _, -, _, -, rfl⟩ := h
            simp [Table.names, identityNames]
        · rw [← Except.ok.inj h]
          simp [Table.names, identityNames]

theorem names_platform : Table.names (platform settings ids) = platformNames := rfl

theorem names_okta (h : okta settings = .ok t) : Table.names t ⊆ oktaNames := by
  unfold okta at h
  split at h
  · rw [← Except.ok.inj h]
    simp [Table.names]
  · split at h
    · split at h
      · simp at h
      · rw [← Except.ok.inj h]
        simp [Table.names, oktaNames]
    · rw [← Except.ok.inj h]
      simp [Table.names]

theorem names_twinCache : Table.names (twinCache settings) ⊆ twinCacheNames := by
  unfold twinCache
  split <;> simp [Table.names, twinCacheNames]

/-- The names that a shared variable of a run can have. -/
def commonNames : List String := identityNames ++ platformNames ++ oktaNames ++ twinCacheNames

theorem names_common (h : common settings ids flags = .ok b) : b.names ⊆ commonNames := by
  simp only [common, bind_eq_ok, pure_eq_ok] at h
  obtain ⟨identity, hi, okta, ho, rfl⟩ := h
  intro name hn
  simp only [Bindings.names, Bindings.ofEntries, Bindings.entries_putAll, Table.mem_names_putAll,
    Table.names_append, List.mem_append, names_platform] at hn
  simp only [commonNames, List.mem_append]
  rcases hn with hn | ((hn | hn) | hn) | hn
  · cases hn
  · exact .inl (.inl (.inl (names_identity hi hn)))
  · exact .inl (.inl (.inr hn))
  · exact .inl (.inr (names_okta ho hn))
  · exact .inr (names_twinCache hn)

end Environment

namespace EventHub

variable {settings : PlatformSettings} {organization : Organization} {workspace : Workspace}
  {checker : EventHubChecker} {env : Table String}

def credentialNames : List String :=
  ["AZURE_EVENT_HUB_SHARED_ACCESS_POLICY", "AZURE_EVENT_HUB_SHARED_ACCESS_KEY",
    "CSM_AMQPCONSUMER_USER", "CSM_AMQPCONSUMER_PASSWORD", "CSM_CONTROL_PLANE_USER",
    "CSM_CONTROL_PLANE_PASSWORD"]

theorem names_credentials_sublist {bus : Settings.EventBus} (h : credentials bus = .ok env) :
    (Table.names env).Sublist credentialNames := by
  unfold credentials at h
  split at h
  · rw [← Except.ok.inj h]
    exact List.nil_sublist _
  · simp only at h
    split at h
    · simp at h
    · simp at h
    · rw [← Except.ok.inj h]
      exact List.Sublist.refl _

/-- The names that a variable of the event bus can have. -/
def variableNames : List String :=
  ["CSM_PROBES_MEASURES_TOPIC", "CSM_CONTROL_PLANE_TOPIC"] ++ credentialNames

theorem names_environment
    (h : (environment settings organization workspace checker).outcome = .ok env) :
    Table.names env ⊆ variableNames := by
  unfold environment at h
  split at h
  · simp at h
  · simp only [Traced.outcome_bind, Traced.outcome_liftM, Traced.outcome_pure, bind_eq_ok] at h
    obtain ⟨credentials, hc, found, -, h⟩ := h
    rw [← Except.ok.inj h, Table.names_append]
    have hcredentials := (names_credentials_sublist hc).subset
    refine List.append_subset.2 ⟨?_, List.subset_append_of_subset_right _ hcredentials⟩
    cases found <;> simp [Table.names, variableNames]

end EventHub

namespace Step

variable {run : RunContext} {checker : EventHubChecker} {solution : Solution}
  {template : RunTemplate} {templateId name : String} {step other : SolutionStep}
  {dependencies : Option (List String)} {sizing : Option ResourceSizing} {c : Container}

/-- What the container of a step is made of. -/
theorem runSolution_ok_iff :
    (runSolution run checker solution templateId step dependencies sizing).outcome = .ok c ↔
      ∃ template common hub, solution.template templateId = .ok template ∧
        run.common {} = .ok common ∧
        (EventHub.environment run.settings run.organization run.workspace checker).outcome =
          .ok hub ∧
        c = {
          name := step.containerName
          image := imageName run.solutionsRegistry solution.repository solution.version
          entrypoint := some "entrypoint.py"
          envVars := some (common.putAll (
            [("CSM_RUN_TEMPLATE_ID", templateId), (containerModeVariable, step.mode)] ++ hub ++
              simulationVariables template ++
                sourceVariables run solution template templateId step))
          dependencies
          solutionContainer := true
          runSizing := sizing } := by
  simp only [runSolution, Traced.outcome_bind, Traced.outcome_liftM, Traced.outcome_pure,
    bind_eq_ok, Except.ok.injEq]
  constructor
  · rintro ⟨template, ht, common, hc, hub, hh, rfl⟩
    exact ⟨template, common, hub, ht, hc, hh, rfl⟩
  · rintro ⟨template, common, hub, ht, hc, hh, rfl⟩
    exact ⟨template, ht, common, hc, hub, hh, rfl⟩

theorem names_simulationVariables :
    Table.names (simulationVariables template) ⊆ ["CSM_SIMULATION"] := by
  unfold simulationVariables
  split <;> simp [Table.names]

/-- The names that a variable with the source of a step can have. -/
def sourceNames (step : SolutionStep) : List String :=
  [step.providerVariable, "AZURE_STORAGE_CONNECTION_STRING", step.pathVariable,
    "CSM_RUN_TEMPLATE_GIT_BRANCH_NAME", "CSM_RUN_TEMPLATE_SOURCE_DIRECTORY"]

theorem sourceNames_nodup (step : SolutionStep) : (sourceNames step).Nodup := by
  cases step <;> decide

theorem names_sourceVariables :
    (Table.names (sourceVariables run solution template templateId step)).Sublist
      (sourceNames step) := by
  unfold sourceVariables
  split
  · exact List.nil_sublist _
  · rename_i source _
    cases source <;> simp [Table.names, sourceNames]

/-- A variable with the source of a step belongs to that step: no other step has its provider. -/
theorem provider_notMem_sourceNames (h : step ≠ other) :
    step.providerVariable ∉ sourceNames other := by
  cases step <;> cases other <;> first | exact absurd rfl h | decide

theorem mode_notMem_sourceNames (step : SolutionStep) :
    containerModeVariable ∉ sourceNames step := by
  cases step <;> decide

/-- The names that a variable which the steps of a run share can have. -/
def sharedNames : List String :=
  Environment.commonNames ++
    (["CSM_RUN_TEMPLATE_ID", containerModeVariable] ++ EventHub.variableNames ++ ["CSM_SIMULATION"])

theorem sourceNames_disjoint_sharedNames (step : SolutionStep) :
    (sourceNames step).Disjoint sharedNames := by
  have h : ∀ name ∈ sourceNames step, name ∉ sharedNames := by cases step <;> decide +kernel
  exact fun name hs => h name hs

/-- The variables that the containers of all steps of a run have. -/
def sharedVariables (run : RunContext) (checker : EventHubChecker) (template : RunTemplate)
    (templateId : String) : Except Failure (Table String) := do
  let common ← run.common {}
  let hub ← (EventHub.environment run.settings run.organization run.workspace checker).outcome
  pure (Table.putAll common.entries
    ([("CSM_RUN_TEMPLATE_ID", templateId)] ++ hub ++ simulationVariables template))

theorem names_sharedVariables {shared : Table String}
    (h : sharedVariables run checker template templateId = .ok shared) :
    Table.names shared ⊆ sharedNames := by
  simp only [sharedVariables, bind_eq_ok, pure_eq_ok] at h
  obtain ⟨common, hc, hub, hh, rfl⟩ := h
  intro name hn
  rw [Table.mem_names_putAll, Table.names_append, Table.names_append] at hn
  simp only [sharedNames, List.mem_append]
  rcases hn with hn | hn
  · exact .inl (Environment.names_common hc hn)
  · simp only [List.mem_append] at hn
    rcases hn with (hn | hn) | hn
    · exact .inr (.inl (.inl (List.mem_cons.2 (.inl (List.mem_singleton.1 hn)))))
    · exact .inr (.inl (.inr (EventHub.names_environment hh hn)))
    · exact .inr (.inr (names_simulationVariables hn))

/-- Its mode apart, a container that runs a step has the shared variables and those with the source
of the step. -/
theorem envValue?_of_runSolution (ht : solution.template templateId = .ok template)
    (h : (runSolution run checker solution templateId step dependencies sizing).outcome = .ok c) :
    ∃ shared, sharedVariables run checker template templateId = .ok shared ∧
      ∀ name ≠ containerModeVariable, c.envValue? name =
        (Table.get? (sourceVariables run solution template templateId step) name).or
          (Table.get? shared name) := by
  obtain ⟨found, common, hub, hf, hc, hh, rfl⟩ := runSolution_ok_iff.1 h
  obtain rfl := Except.ok.inj (ht.symm.trans hf)
  refine ⟨_, by rw [sharedVariables, hc, ok_bind, hh, ok_bind]; rfl, fun name hn => ?_⟩
  change Table.get? (Table.putAll common.entries _) name = _
  rw [Table.putAll_append, Table.get?_putAll (names_sourceVariables.nodup (sourceNames_nodup step))]
  congr 1
  rw [Table.putAll_append, Table.putAll_append, Table.putAll_append, Table.putAll_append]
  refine Table.get?_putAll_congr (Table.get?_putAll_congr ?_)
  change Table.get? (Table.put _ containerModeVariable step.mode) name = _
  rw [Table.get?_put, if_neg hn]
  rfl

/-- The container of one step has all variables of that of another one, the mode apart, just when
the other step has no source of its own. -/
theorem keeps_iff {a : Container} {given : Option (List String)}
    (ht : solution.template templateId = .ok template) (hne : step ≠ other)
    (ha : (runSolution run checker solution templateId step given sizing).outcome = .ok a)
    (hc : (runSolution run checker solution templateId other dependencies sizing).outcome = .ok c) :
    a.Keeps c ↔ other.source template = none := by
  obtain ⟨shared, hs, hva⟩ := envValue?_of_runSolution ht ha
  obtain ⟨shared', hs', hvc⟩ := envValue?_of_runSolution ht hc
  obtain rfl := Except.ok.inj (hs.symm.trans hs')
  constructor
  · intro h
    -- nothing but the other step sets its provider, so the first container lacks this variable
    by_contra hsource
    obtain ⟨source, hsource⟩ := Option.ne_none_iff_exists'.1 hsource
    have hname : other.providerVariable ∈ sourceNames other := List.mem_cons_self
    have hmode : other.providerVariable ≠ containerModeVariable :=
      fun he => mode_notMem_sourceNames other (he ▸ hname)
    have hprovider : c.envValue? other.providerVariable = some source.provider := by
      rw [hvc _ hmode, sourceVariables, hsource]
      simp [Table.get?]
    have hnone : a.envValue? other.providerVariable = none := by
      rw [hva _ hmode, Table.get?_eq_none.2, Table.get?_eq_none.2, Option.none_or]
      · exact fun hn => sourceNames_disjoint_sharedNames other hname (names_sharedVariables hs hn)
      · exact fun hn => provider_notMem_sourceNames hne.symm (names_sourceVariables.subset hn)
    simpa [hnone] using h _ _ hmode hprovider
  · intro hsource name value hn hv
    rw [hvc name hn, sourceVariables, hsource] at hv
    have hnone :
        Table.get? (sourceVariables run solution template templateId step) name = none := by
      refine Table.get?_eq_none.2 fun hsn => ?_
      have hshared : name ∈ Table.names shared := List.mem_map_of_mem (Table.mem_of_get?_eq_some hv)
      exact sourceNames_disjoint_sharedNames step (names_sourceVariables.subset hsn)
        (names_sharedVariables hs hshared)
    rw [hva name hn, hnone, Option.none_or]
    exact hv

/-- What the containers of all steps of a run have in common besides variables. -/
theorem unvarying_of_runSolution
    (h : (runSolution run checker solution templateId step dependencies sizing).outcome = .ok c) :
    c.image = imageName run.solutionsRegistry solution.repository solution.version ∧
      c.entrypoint = some "entrypoint.py" ∧ c.labels = none ∧ c.runArgs = none ∧
        c.runSizing = sizing := by
  obtain ⟨_, _, _, -, -, -, rfl⟩ := runSolution_ok_iff.1 h
  exact ⟨rfl, rfl, rfl, rfl, rfl⟩

end Step

end ScenarioCompiler
