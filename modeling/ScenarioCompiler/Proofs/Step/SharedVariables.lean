import ScenarioCompiler.Proofs.Step.Download
import ScenarioCompiler.Proofs.Step.Solution

namespace ScenarioCompiler

/-- The environment of a container begins with the given variables. -/
def Container.BeginsWith (c : Container) (shared : Bindings) : Prop :=
  ∃ env, c.envVars = some env ∧ shared.entries <+: env.entries

/-- A parameter of the connector is bound to one of the given variables. -/
def Connector.Rebinds (connector : Connector) (shared : Bindings) : Prop :=
  ∃ p ∈ connector.parameters, ∃ name ∈ shared.names, p.envVar = some name

theorem Container.BeginsWith.envValue? {c : Container} {shared : Bindings} {name value : String}
    (h : c.BeginsWith shared) (hg : shared.get? name = some value) :
    c.envValue? name = some value := by
  obtain ⟨env, he, hp⟩ := h
  rw [Container.envValue?, he, Option.bind_some]
  exact Table.get?_of_prefix hp hg

namespace Environment

variable {settings : PlatformSettings} {flags : IdentityFlags} {ids : RunIds} {shared : Bindings}
  {names : List String}

theorem disjoint_common (h : common settings ids flags = .ok shared)
    (hn : ∀ name ∈ names, name ∉ commonNames) : names.Disjoint shared.names :=
  fun name hm hs => hn name hm (names_common h hs)

/-- The id of the run is one of the shared variables. -/
theorem simulationId_of_common (h : common settings ids flags = .ok shared) :
    shared.get? "CSM_SIMULATION_ID" = some ids.csmSimulationId := by
  simp only [common, bind_eq_ok, pure_eq_ok] at h
  obtain ⟨identity, -, okta, ho, rfl⟩ := h
  -- only the variables of the platform hold the id, and those after them have other names
  have hcache : "CSM_SIMULATION_ID" ∉ Table.names (twinCache settings) :=
    fun hn => absurd (names_twinCache hn) (by decide)
  have hokta : "CSM_SIMULATION_ID" ∉ Table.names okta :=
    fun hn => absurd (names_okta ho hn) (by decide)
  have hplatform : (Table.names (platform settings ids)).Nodup := by
    rw [names_platform]
    decide
  change Table.get? (Table.putAll [] _) _ = _
  rw [Table.putAll_append, Table.get?_putAll_of_notMem hcache, Table.putAll_append,
    Table.get?_putAll_of_notMem hokta, Table.putAll_append, Table.get?_putAll hplatform]
  simp [platform, Table.get?]

end Environment

namespace Step

open Environment

variable {run : RunContext} {checker : EventHubChecker} {dataset : Dataset} {connector : Connector}
  {target : FetchTarget} {dependencies : Option (List String)} {asJson : Option Bool}
  {content : WarehouseContent} {solution : Solution} {templateId : String} {step : SolutionStep}
  {sizing : Option ResourceSizing} {c : Container}

/-- The variables of a connector come after the shared ones, unless it binds one of these. -/
theorem beginsWith_of_fetchDataset
    (h : fetchDataset run dataset connector target dependencies = .ok c) :
    ∃ shared, run.common (identityFlags connector) = .ok shared ∧
      (¬ connector.Rebinds shared → c.BeginsWith shared) := by
  simp only [fetchDataset, bind_eq_ok, pure_eq_ok] at h
  obtain ⟨binding, hb, shared, hs, labels, -, rfl⟩ := h
  refine ⟨shared, hs, fun hr =>
    ⟨_, rfl, Table.prefix_putAll (Table.prefix_put List.prefix_rfl ?_) ?_⟩⟩
  · exact fun hn => absurd (names_common hs hn) (by decide)
  · intro name hn hshared
    obtain ⟨p, hp, he⟩ := ConnectorBinding.envVar_of_mem_names hb hn
    exact hr ⟨p, hp, name, hshared, he⟩

theorem beginsWith_of_fetchParameters (h : fetchParameters run asJson dependencies = .ok c) :
    ∃ shared, run.common {} = .ok shared ∧ c.BeginsWith shared := by
  simp only [fetchParameters, bind_eq_ok, pure_eq_ok] at h
  obtain ⟨shared, hs, rfl⟩ := h
  have other {name : String} (hn : name ∉ commonNames) : name ∉ Table.names shared.entries :=
    fun hm => hn (names_common hs hm)
  have hpath : shared.entries <+: Table.put shared.entries fetchPathVariable parametersPath :=
    Table.prefix_put List.prefix_rfl (other (by decide))
  refine ⟨shared, hs, _, rfl, ?_⟩
  split
  · exact Table.prefix_put (Table.prefix_put hpath (other (by decide))) (other (by decide))
  · exact hpath

theorem beginsWith_of_sendToWarehouse (h : sendToWarehouse run content dependencies = .ok c) :
    ∃ shared, run.common {} = .ok shared ∧ c.BeginsWith shared := by
  simp only [sendToWarehouse, bind_eq_ok, pure_eq_ok] at h
  obtain ⟨shared, hs, rfl⟩ := h
  have hown : ∀ name ∈ ["CSM_SEND_DATAWAREHOUSE_PARAMETERS", "CSM_SEND_DATAWAREHOUSE_DATASETS"],
      name ∉ commonNames := by
    decide
  exact ⟨shared, hs, _, rfl, Table.prefix_putAll List.prefix_rfl (disjoint_common hs hown)⟩

theorem beginsWith_of_runSolution
    (h : (runSolution run checker solution templateId step dependencies sizing).outcome = .ok c) :
    ∃ shared, run.common {} = .ok shared ∧ c.BeginsWith shared := by
  obtain ⟨template, shared, hub, -, hs, hh, rfl⟩ := runSolution_ok_iff.1 h
  have hown : ∀ name ∈ ["CSM_RUN_TEMPLATE_ID", containerModeVariable] ++ EventHub.variableNames ++
      ["CSM_SIMULATION"], name ∉ commonNames := by
    decide +kernel
  refine ⟨shared, hs, _, rfl, Table.prefix_putAll List.prefix_rfl
    (disjoint_common hs fun name hn hshared => ?_)⟩
  simp only [Table.names_append, List.mem_append] at hn
  simp only [List.mem_append] at hown
  rcases hn with ((hn | hn) | hn) | hn
  · exact hown name (.inl (.inl hn)) hshared
  · exact hown name (.inl (.inr (EventHub.names_environment hh hn))) hshared
  · exact hown name (.inr (names_simulationVariables hn)) hshared
  · exact sourceNames_disjoint_sharedNames step (names_sourceVariables.subset hn)
      (List.mem_append_left _ hshared)

end Step

/-- Merging keeps what the environment of the first container begins with, the mode apart. -/
theorem Stack.beginsWith_merged {first : Container} {shared : Bindings}
    (h : first.BeginsWith shared) (hm : containerModeVariable ∉ shared.names) (number : Nat)
    (group : List Container) :
    (merged number first group).BeginsWith shared := by
  obtain ⟨env, he, hp⟩ := h
  refine ⟨_, rfl, ?_⟩
  rw [he, Option.getD_some]
  exact Table.prefix_put hp hm

end ScenarioCompiler
