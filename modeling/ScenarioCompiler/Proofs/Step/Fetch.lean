import Mathlib.Data.List.Nodup
import ScenarioCompiler.Proofs.ContainerName
import ScenarioCompiler.Proofs.DatasetIds
import ScenarioCompiler.Proofs.Environment.Configured
import ScenarioCompiler.Proofs.Pointwise
import ScenarioCompiler.Step.Fetch

namespace ScenarioCompiler

open Environment

namespace Catalog

variable {catalog : Catalog} {id : String} {dataset other : Dataset} {connector : Connector}
  {f : Failure}

theorem dataset_eq_ok :
    catalog.dataset id = .ok dataset ↔ IsLast (·.id = id) catalog.datasets dataset := by
  rw [← find?_reverse_eq_some, Catalog.dataset]
  cases catalog.datasets.reverse.find? (·.id == id) <;> simp

theorem dataset_eq_error (h : catalog.dataset id = .error f) :
    f = .unknownDataset id ∧ ∀ dataset ∈ catalog.datasets, dataset.id ≠ id := by
  unfold Catalog.dataset at h
  split at h
  · simp at h
  · rename_i hf
    exact ⟨(Except.error.inj h).symm, find?_reverse_eq_none.1 hf⟩

theorem connectorOf_eq_ok :
    catalog.connectorOf dataset = .ok connector ↔ dataset.connectorId? = some connector.id ∧
      IsLast (·.id = connector.id) catalog.connectors connector := by
  have hc : catalog.connectorOf dataset = .ok connector ↔
      dataset.connectorId?.bind catalog.connector? = some connector := by
    unfold Catalog.connectorOf
    cases dataset.connectorId?.bind catalog.connector? <;> simp
  rw [hc, Option.bind_eq_some_iff]
  constructor
  · rintro ⟨id, hid, hf⟩
    have hl := find?_reverse_eq_some.1 hf
    exact ⟨hl.prop ▸ hid, hl.prop.symm ▸ hl⟩
  · rintro ⟨hid, hl⟩
    exact ⟨_, hid, find?_reverse_eq_some.2 hl⟩

theorem connectorOf_eq_error (h : catalog.connectorOf dataset = .error f) :
    ∃ connectorId datasetId, f = .unknownConnector connectorId datasetId := by
  unfold Catalog.connectorOf at h
  split at h
  · simp at h
  · exact ⟨_, _, (Except.error.inj h).symm⟩

/-- The dataset of an id and the connector that it uses, both the last ones that were given. -/
structure Supplies (catalog : Catalog) (id : String) (dataset : Dataset) (connector : Connector) :
    Prop where
  last_dataset : IsLast (·.id = id) catalog.datasets dataset
  uses : dataset.connectorId? = some connector.id
  last_connector : IsLast (·.id = connector.id) catalog.connectors connector

theorem supplies_iff : catalog.Supplies id dataset connector ↔
    catalog.dataset id = .ok dataset ∧ catalog.connectorOf dataset = .ok connector := by
  rw [dataset_eq_ok, connectorOf_eq_ok]
  exact ⟨fun h => ⟨h.last_dataset, h.uses, h.last_connector⟩, fun ⟨hd, hu, hc⟩ => ⟨hd, hu, hc⟩⟩

theorem Supplies.unique {first second : Connector} (h : catalog.Supplies id dataset first)
    (h' : catalog.Supplies id other second) : dataset = other ∧ first = second := by
  obtain ⟨hd, hc⟩ := supplies_iff.1 h
  obtain ⟨hd', hc'⟩ := supplies_iff.1 h'
  obtain rfl := Except.ok.inj (hd.symm.trans hd')
  exact ⟨rfl, Except.ok.inj (hc.symm.trans hc')⟩

end Catalog

namespace ConnectorBinding

/-- A dataset can be bound to the connector that it uses. -/
theorem exists_of_eq_ok {dataset : Dataset} {connector : Connector}
    (h : dataset.connectorId? = some connector.id) (settings : PlatformSettings)
    (organizationId workspaceId : String) :
    ∃ binding, of settings connector dataset organizationId workspaceId = .ok binding := by
  obtain ⟨use, hu, hid⟩ := Option.bind_eq_some_iff.1 h
  have hv : valuesFor dataset connector = .ok use.parametersValues := by
    simp [valuesFor, hu, hid]
  rw [of, hv]
  exact ⟨_, rfl⟩

end ConnectorBinding

namespace Step

/-- The platform has the credentials that a connector asks for. -/
structure Connectable (settings : PlatformSettings) (connector : Connector) : Prop where
  identity : IdentityConfigured settings (identityFlags connector)
  okta : OktaConfigured settings
  binding : connector.azureManagedIdentity = some true →
    ∃ azure, settings.azure = some azure ∧ azure.credentials.core.aadPodIdBinding ≠ none

/-- The dataset of an id can be fetched: it is in the catalog, its connector is, and the platform
has the credentials for it. -/
def Usable (settings : PlatformSettings) (catalog : Catalog) (id : String) : Prop :=
  ∃ dataset connector, IsLast (·.id = id) catalog.datasets dataset ∧
    dataset.connectorId? = some connector.id ∧
    IsLast (·.id = connector.id) catalog.connectors connector ∧ Connectable settings connector

/-- Why the dataset of an id cannot be fetched. -/
def FetchFailure (catalog : Catalog) (id : String) (f : Failure) : Prop :=
  (f = .unknownDataset id ∧ ∀ dataset ∈ catalog.datasets, dataset.id ≠ id) ∨
    (∃ connectorId datasetId, f = .unknownConnector connectorId datasetId) ∨ f.AboutCredentials

theorem FetchFailure.ofInputs {catalog : Catalog} {id : String} {f : Failure}
    (h : FetchFailure catalog id f) : f.OfInputs := by
  rcases h with ⟨rfl, -⟩ | ⟨_, _, rfl⟩ | h
  · trivial
  · trivial
  · exact h.ofInputs

variable {run : RunContext} {settings : PlatformSettings} {catalog : Catalog} {dataset : Dataset}
  {connector : Connector} {target : FetchTarget} {dependencies : Option (List String)}
  {forParameter : Bool} {index : Nat} {items : List (Option String × String)} {c : Container}
  {containers : List Container} {f : Failure}

theorem exists_identityLabels_eq_ok :
    (∃ labels, identityLabels settings connector = .ok labels) ↔
      (connector.azureManagedIdentity = some true →
        ∃ azure, settings.azure = some azure ∧ azure.credentials.core.aadPodIdBinding ≠ none) := by
  unfold identityLabels
  by_cases hm : connector.azureManagedIdentity = some true
  · cases ha : settings.azure with
    | none => simp [hm]
    | some azure => cases hb : azure.credentials.core.aadPodIdBinding <;> simp [hm, hb]
  · simp [hm]

theorem identityLabels_eq_error (h : identityLabels settings connector = .error f) :
    f.AboutCredentials := by
  unfold identityLabels at h
  split at h
  · split at h
    · exact .inr ⟨_, (Except.error.inj h).symm⟩
    · simp at h
  · simp at h

/-- What a container that fetches a dataset looks like from outside. -/
theorem fetchDataset_eq_ok
    (h : fetchDataset run dataset connector target dependencies = .ok c) :
    c.name = target.containerName ∧ c.dependencies = dependencies ∧
      c.solutionContainer = false := by
  simp only [fetchDataset, bind_eq_ok, pure_eq_ok] at h
  obtain ⟨_, -, _, -, _, -, rfl⟩ := h
  exact ⟨rfl, rfl, rfl⟩

theorem exists_fetchDataset_eq_ok (h : dataset.connectorId? = some connector.id) :
    (∃ c, fetchDataset run dataset connector target dependencies = .ok c) ↔
      Connectable run.settings connector := by
  simp only [fetchDataset, bind_eq_ok, pure_eq_ok]
  constructor
  · rintro ⟨_, _, -, _, hc, _, hl, -⟩
    obtain ⟨hi, ho⟩ := exists_common_eq_ok.1 ⟨_, hc⟩
    exact ⟨hi, ho, exists_identityLabels_eq_ok.1 ⟨_, hl⟩⟩
  · rintro ⟨hi, ho, hb⟩
    obtain ⟨binding, hbinding⟩ :=
      ConnectorBinding.exists_of_eq_ok h run.settings run.organization.id run.workspace.id
    obtain ⟨common, hc⟩ := exists_common_eq_ok.2 ⟨hi, ho⟩
    obtain ⟨labels, hl⟩ := exists_identityLabels_eq_ok.2 hb
    exact ⟨_, binding, hbinding, common, hc, labels, hl, rfl⟩

theorem fetchDataset_eq_error (hid : dataset.connectorId? = some connector.id)
    (h : fetchDataset run dataset connector target dependencies = .error f) :
    f.AboutCredentials := by
  simp only [fetchDataset, bind_eq_error, pure_ne_error] at h
  rcases h with h | ⟨_, -, h | ⟨_, -, h | ⟨_, -, h⟩⟩⟩
  · obtain ⟨binding, hbinding⟩ :=
      ConnectorBinding.exists_of_eq_ok hid run.settings run.organization.id run.workspace.id
    simp [hbinding] at h
  · exact common_eq_error h
  · exact identityLabels_eq_error h
  · exact h.elim

/-! ### Numbered containers -/

/-- The name of the container that fetches the dataset of a number. -/
def fetchName (forParameter : Bool) (index : Nat) : String :=
  (if forParameter then fetchDatasetParametersName else fetchDatasetName) ++ "-" ++ toString index

theorem fetchName_injective {m n : Nat} (h : fetchName forParameter m = fetchName forParameter n) :
    m = n :=
  natText_injective (append_injective h)

theorem stem_fetchName (forParameter : Bool) (index : Nat) :
    stem (fetchName forParameter index) =
      (if forParameter then fetchDatasetParametersName else fetchDatasetName).toList := by
  cases forParameter with
  | false => exact stem_append fetchDatasetName (toString index) (by decide)
  | true => exact stem_append fetchDatasetParametersName (toString index) (by decide)

/-- The datasets of a list are fetched in their order, each with its number. -/
theorem fetchNumbered_eq_ok_iff :
    fetchNumbered run catalog forParameter dependencies index items = .ok containers ↔
      List.Forall₂ (fun entry c => ∃ dataset connector,
        catalog.Supplies entry.1.2 dataset connector ∧
          fetchDataset run dataset connector ⟨forParameter, entry.1.1, (entry.2 : Nat)⟩
            dependencies = .ok c) (items.zipIdx index) containers := by
  induction items generalizing index containers with
  | nil =>
    rw [fetchNumbered, pure_eq_ok, List.zipIdx_nil, List.forall₂_nil_left_iff]
    exact eq_comm
  | cons item rest ih =>
    simp only [fetchNumbered, bind_eq_ok, pure_eq_ok, List.zipIdx_cons, List.forall₂_cons_left_iff]
    constructor
    · rintro ⟨dataset, hd, connector, hc, c, hf, later, hl, rfl⟩
      exact ⟨c, later, ⟨dataset, connector, Catalog.supplies_iff.2 ⟨hd, hc⟩, hf⟩, ih.1 hl, rfl⟩
    · rintro ⟨c, later, ⟨dataset, connector, hs, hf⟩, hl, rfl⟩
      obtain ⟨hd, hc⟩ := Catalog.supplies_iff.1 hs
      exact ⟨dataset, hd, connector, hc, c, hf, later, ih.2 hl, rfl⟩

theorem names_fetchNumbered
    (h : fetchNumbered run catalog forParameter dependencies index items = .ok containers) :
    containers.map (·.name) = (List.range' index items.length).map (fetchName forParameter) := by
  have hnames : List.Forall₂ (· = ·) ((items.zipIdx index).map (fetchName forParameter ·.2))
      (containers.map (·.name)) := by
    rw [List.forall₂_map_left_iff, List.forall₂_map_right_iff]
    refine (fetchNumbered_eq_ok_iff.1 h).imp fun entry c hc => ?_
    obtain ⟨_, _, -, hf⟩ := hc
    exact (fetchDataset_eq_ok hf).1.symm
  rw [List.forall₂_eq_eq_eq] at hnames
  rw [← hnames, ← List.zipIdx_map_snd, List.map_map]
  rfl

theorem names_fetchNumbered_nodup
    (h : fetchNumbered run catalog forParameter dependencies index items = .ok containers) :
    (containers.map (·.name)).Nodup := by
  rw [names_fetchNumbered h]
  exact List.Nodup.map (fun _ _ => fetchName_injective) List.nodup_range'

/-- All numbered containers wait for the same names, and none of them runs the solution. -/
theorem mem_fetchNumbered
    (h : fetchNumbered run catalog forParameter dependencies index items = .ok containers)
    (hc : c ∈ containers) : c.dependencies = dependencies ∧ c.solutionContainer = false := by
  have hall : ∀ c ∈ containers, c.dependencies = dependencies ∧ c.solutionContainer = false := by
    refine forall_mem_of_forall₂ (fetchNumbered_eq_ok_iff.1 h).flip fun c entry hf => ?_
    obtain ⟨_, _, -, hf⟩ := hf
    exact (fetchDataset_eq_ok hf).2
  exact hall c hc

/-- The datasets of a list are fetched just when each of them can be. -/
theorem exists_fetchNumbered_eq_ok :
    (∃ cs, fetchNumbered run catalog forParameter dependencies index items = .ok cs) ↔
      ∀ item ∈ items, Usable run.settings catalog item.2 := by
  induction items generalizing index with
  | nil => simp [fetchNumbered]
  | cons item rest ih =>
    rw [List.forall_mem_cons, ← @ih (index + 1)]
    simp only [fetchNumbered, bind_eq_ok, pure_eq_ok]
    constructor
    · rintro ⟨_, dataset, hd, connector, hc, c, hf, later, hl, rfl⟩
      obtain ⟨hid, hlast⟩ := Catalog.connectorOf_eq_ok.1 hc
      exact ⟨⟨dataset, connector, Catalog.dataset_eq_ok.1 hd, hid, hlast,
        (exists_fetchDataset_eq_ok hid).1 ⟨c, hf⟩⟩, later, hl⟩
    · rintro ⟨⟨dataset, connector, hd, hid, hlast, hconn⟩, later, hl⟩
      obtain ⟨c, hf⟩ := (exists_fetchDataset_eq_ok hid).2 hconn
      exact ⟨_, dataset, Catalog.dataset_eq_ok.2 hd, connector,
        Catalog.connectorOf_eq_ok.2 ⟨hid, hlast⟩, c, hf, later, hl, rfl⟩

theorem fetchNumbered_eq_error
    (h : fetchNumbered run catalog forParameter dependencies index items = .error f) :
    ∃ item ∈ items, FetchFailure catalog item.2 f := by
  induction items generalizing index with
  | nil => simp [fetchNumbered] at h
  | cons item rest ih =>
    simp only [fetchNumbered, bind_eq_error, pure_ne_error, and_false, exists_false,
      or_false] at h
    rcases h with h | ⟨dataset, -, h | ⟨connector, hc, h | ⟨_, -, h⟩⟩⟩
    · exact ⟨item, List.mem_cons_self, .inl (Catalog.dataset_eq_error h)⟩
    · exact ⟨item, List.mem_cons_self, .inr (.inl (Catalog.connectorOf_eq_error h))⟩
    · have hid := (Catalog.connectorOf_eq_ok.1 hc).1
      exact ⟨item, List.mem_cons_self, .inr (.inr (fetchDataset_eq_error hid h))⟩
    · obtain ⟨other, hm, hf⟩ := ih h
      exact ⟨other, List.mem_cons_of_mem _ hm, hf⟩

/-! ### The fetching steps -/

variable {scenario : Scenario} {solution : Solution} {asJson : Option Bool} {id : String}

theorem fetchParameters_eq_ok (h : fetchParameters run asJson dependencies = .ok c) :
    c.name = fetchParametersName ∧ c.dependencies = dependencies ∧ c.solutionContainer = false := by
  simp only [fetchParameters, bind_eq_ok, pure_eq_ok] at h
  obtain ⟨_, -, rfl⟩ := h
  exact ⟨rfl, rfl, rfl⟩

theorem exists_fetchParameters_eq_ok :
    (∃ c, fetchParameters run asJson dependencies = .ok c) ↔ BaseAuthentication run.settings := by
  rw [← exists_common_default_eq_ok run.ids]
  simp only [fetchParameters, bind_eq_ok, pure_eq_ok]
  constructor
  · rintro ⟨_, common, hc, -⟩
    exact ⟨common, hc⟩
  · rintro ⟨common, hc⟩
    exact ⟨_, common, hc, rfl⟩

theorem fetchParameters_eq_error (h : fetchParameters run asJson dependencies = .error f) :
    f.AboutCredentials := by
  simp only [fetchParameters, bind_eq_error, pure_ne_error, and_false, exists_false, or_false] at h
  exact common_eq_error h

theorem exists_fetchDatasets_eq_ok : (∃ cs, fetchDatasets run catalog scenario = .ok cs) ↔
    ∀ id ∈ scenario.datasetList, Usable run.settings catalog id := by
  rw [fetchDatasets, exists_fetchNumbered_eq_ok]
  simp

theorem fetchDatasets_eq_error (h : fetchDatasets run catalog scenario = .error f) :
    ∃ id ∈ scenario.datasetList, FetchFailure catalog id f := by
  obtain ⟨item, hm, hf⟩ := fetchNumbered_eq_error h
  obtain ⟨id, hid, rfl⟩ := List.mem_map.1 hm
  exact ⟨id, hid, hf⟩

/-- The datasets that the values of the scenario name up to the first one that cannot be read. -/
def namedDatasets (solution : Solution) (scenario : Scenario) : List (Option String × String) :=
  (parameterDatasets (DatasetIds.perParameter solution scenario.parametersValues).1).map fun item =>
    (some item.1, item.2)

theorem mem_parameterDatasets {items : List (String × List String)} :
    (∃ entry ∈ parameterDatasets items, entry.2 = id) ↔ ∃ item ∈ items, id ∈ item.2 := by
  simp only [parameterDatasets, List.mem_flatMap, List.mem_mapIdx]
  constructor
  · rintro ⟨_, ⟨item, hitem, i, hi, rfl⟩, rfl⟩
    exact ⟨item, hitem, List.getElem_mem hi⟩
  · rintro ⟨item, hitem, hid⟩
    obtain ⟨i, hi, rfl⟩ := List.getElem_of_mem hid
    exact ⟨_, ⟨item, hitem, i, hi, rfl⟩, rfl⟩

theorem names_of_mem_namedDatasets {item : Option String × String}
    (h : item ∈ namedDatasets solution scenario) :
    ∃ value ∈ scenario.parametersValues, ∃ ids, DatasetIds.Names solution value ids ∧
      item.2 ∈ ids := by
  obtain ⟨entry, he, rfl⟩ := List.mem_map.1 h
  obtain ⟨found, hf, hid⟩ := mem_parameterDatasets.1 ⟨entry, he, rfl⟩
  obtain ⟨value, hv, -, hn⟩ := DatasetIds.names_of_mem_perParameter hf
  exact ⟨value, hv, _, hn, hid⟩

theorem exists_mem_namedDatasets
    (h : (DatasetIds.perParameter solution scenario.parametersValues).2 = none)
    {value : ParameterValue} (hv : value ∈ scenario.parametersValues) {ids : List String}
    (hn : DatasetIds.Names solution value ids) (hid : id ∈ ids) :
    ∃ item ∈ namedDatasets solution scenario, item.2 = id := by
  have hm := DatasetIds.mem_perParameter h hv hn
  obtain ⟨entry, he, rfl⟩ := mem_parameterDatasets.2 ⟨_, hm, hid⟩
  exact ⟨_, List.mem_map_of_mem he, rfl⟩

theorem fetchDatasetParameters_eq_ok
    (h : fetchDatasetParameters run catalog scenario solution dependencies = .ok containers) :
    (DatasetIds.perParameter solution scenario.parametersValues).2 = none ∧
      fetchNumbered run catalog true dependencies 1 (namedDatasets solution scenario) =
        .ok containers := by
  simp only [fetchDatasetParameters, bind_eq_ok] at h
  obtain ⟨built, hb, h⟩ := h
  split at h
  · simp at h
  · rename_i hnone
    rw [← pure_eq_ok.1 h]
    exact ⟨hnone, hb⟩

/-- The datasets of the parameters are fetched just when all values can be read and all datasets
that they name can be fetched. -/
theorem exists_fetchDatasetParameters_eq_ok :
    (∃ cs, fetchDatasetParameters run catalog scenario solution dependencies = .ok cs) ↔
      (∀ value ∈ scenario.parametersValues, DatasetIds.Readable solution value) ∧
        ∀ value ∈ scenario.parametersValues, ∀ ids, DatasetIds.Names solution value ids →
          ∀ id ∈ ids, Usable run.settings catalog id := by
  rw [← DatasetIds.perParameter_snd_eq_none]
  constructor
  · rintro ⟨cs, h⟩
    obtain ⟨hnone, hb⟩ := fetchDatasetParameters_eq_ok h
    refine ⟨hnone, fun value hv ids hn id hid => ?_⟩
    obtain ⟨item, hm, rfl⟩ := exists_mem_namedDatasets hnone hv hn hid
    exact exists_fetchNumbered_eq_ok.1 ⟨cs, hb⟩ item hm
  · rintro ⟨hnone, hu⟩
    -- all values can be read, so that the list of the named datasets is complete
    have hall : ∀ item ∈ namedDatasets solution scenario,
        Usable run.settings catalog item.2 := by
      intro item hm
      obtain ⟨value, hv, ids, hn, hid⟩ := names_of_mem_namedDatasets hm
      exact hu value hv ids hn _ hid
    obtain ⟨built, hb⟩ := exists_fetchNumbered_eq_ok.2 hall
    exact ⟨built, bind_eq_ok.2 ⟨built, hb, by rw [hnone]; rfl⟩⟩

theorem fetchDatasetParameters_eq_error
    (h : fetchDatasetParameters run catalog scenario solution dependencies = .error f) :
    (∃ parameterId solutionId, f = .unknownParameter parameterId solutionId) ∨
      (∃ text reason, f = .malformedDatasetIds text reason) ∨
      ∃ value ∈ scenario.parametersValues, ∃ ids, DatasetIds.Names solution value ids ∧
        ∃ id ∈ ids, FetchFailure catalog id f := by
  simp only [fetchDatasetParameters, bind_eq_error] at h
  rcases h with h | ⟨_, -, h⟩
  · obtain ⟨item, hm, hf⟩ := fetchNumbered_eq_error h
    obtain ⟨value, hv, ids, hn, hid⟩ := names_of_mem_namedDatasets hm
    exact .inr (.inr ⟨value, hv, ids, hn, _, hid, hf⟩)
  · split at h
    · rename_i failure hs
      obtain rfl := Except.error.inj h
      exact (DatasetIds.perParameter_snd_eq_some hs).imp_right .inl
    · simp at h

end Step

end ScenarioCompiler
