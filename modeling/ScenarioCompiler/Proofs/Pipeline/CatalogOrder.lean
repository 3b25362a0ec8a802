import ScenarioCompiler.Proofs.Pipeline.Compilable

namespace ScenarioCompiler

namespace Step

variable {run : RunContext} {catalog other : Catalog} {forParameter : Bool}
  {dependencies : Option (List String)} {index : Nat} {items : List (Option String × String)}
  {scenario : Scenario} {solution : Solution}

/-- Two catalogs that give the same dataset of an id, and the same connector for it. -/
def Alike (catalog other : Catalog) (id : String) : Prop :=
  other.dataset id = catalog.dataset id ∧
    ∀ dataset, catalog.dataset id = .ok dataset →
      other.connectorOf dataset = catalog.connectorOf dataset

/-- Containers are numbered and built in the same way, or fail in the same way, from catalogs that
are alike for all their datasets. -/
theorem fetchNumbered_congr (h : ∀ item ∈ items, Alike catalog other item.2) :
    fetchNumbered run other forParameter dependencies index items =
      fetchNumbered run catalog forParameter dependencies index items := by
  induction items generalizing index with
  | nil => rfl
  | cons item rest ih =>
    obtain ⟨⟨hdataset, hconnector⟩, hrest⟩ := List.forall_mem_cons.1 h
    simp only [fetchNumbered, hdataset, ih hrest]
    cases hd : catalog.dataset item.2 with
    | error f => rfl
    | ok dataset => rw [ok_bind, ok_bind, hconnector dataset hd]

theorem fetchDatasets_congr (h : ∀ id ∈ scenario.datasetList, Alike catalog other id) :
    fetchDatasets run other scenario = fetchDatasets run catalog scenario := by
  refine fetchNumbered_congr fun item hm => ?_
  obtain ⟨id, hid, rfl⟩ := List.mem_map.1 hm
  exact h id hid

theorem fetchDatasetParameters_congr
    (h : ∀ value ∈ scenario.parametersValues, ∀ ids, DatasetIds.Names solution value ids →
      ∀ id ∈ ids, Alike catalog other id) :
    fetchDatasetParameters run other scenario solution dependencies =
      fetchDatasetParameters run catalog scenario solution dependencies := by
  have hn : fetchNumbered run other true dependencies 1 (namedDatasets solution scenario) =
      fetchNumbered run catalog true dependencies 1 (namedDatasets solution scenario) := by
    refine fetchNumbered_congr fun item hm => ?_
    obtain ⟨value, hv, ids, hids, hid⟩ := names_of_mem_namedDatasets hm
    exact h value hv ids hids _ hid
  unfold fetchDatasetParameters
  exact congrArg (· >>= _) hn

end Step

namespace Pipeline

open Step (Alike)

/-- Datasets and connectors that hold those of a request in some order, and with them others to
which neither the scenario nor a dataset of the request refers. -/
structure Rearranged (request : RunRequest) (datasets : List Dataset)
    (connectors : List Connector) : Prop where
  datasets : ∃ extra, datasets.Perm (request.datasets ++ extra) ∧ ∀ dataset ∈ extra,
    dataset.id ∉ request.scenario.datasetList ∧
      ∀ value ∈ request.scenario.parametersValues, ∀ ids,
        DatasetIds.Names request.solution value ids → dataset.id ∉ ids
  connectors : ∃ extra, connectors.Perm (request.connectors ++ extra) ∧
    ∀ connector ∈ extra, ∀ dataset ∈ request.datasets, dataset.connectorId? ≠ some connector.id

/-- The request with other datasets and connectors. -/
def withCatalog (request : RunRequest) (datasets : List Dataset) (connectors : List Connector) :
    RunRequest :=
  { request with datasets, connectors }

variable {settings : PlatformSettings} {checker : EventHubChecker} {request : RunRequest}
  {datasets : List Dataset} {connectors : List Connector} {csmSimulationId freshId id : String}
  {template : RunTemplate}

theorem connectorOf_rearranged (hd : (request.connectors.map (·.id)).Nodup)
    (h : Rearranged request datasets connectors) {dataset : Dataset}
    (hm : dataset ∈ request.datasets) :
    (catalogOf (withCatalog request datasets connectors)).connectorOf dataset =
      (catalogOf request).connectorOf dataset := by
  obtain ⟨extra, hp, he⟩ := h.connectors
  have hlookup : dataset.connectorId?.bind
      (catalogOf (withCatalog request datasets connectors)).connector? =
        dataset.connectorId?.bind (catalogOf request).connector? := by
    cases hid : dataset.connectorId? with
    | none => rfl
    | some id =>
      exact find?_reverse_of_perm hd hp fun connector hc heq =>
        he connector hc dataset hm (heq ▸ hid)
  rw [Catalog.connectorOf, Catalog.connectorOf, hlookup]

/-- An id that no added dataset has is looked up as before. -/
theorem alike_rearranged (hd : (request.datasets.map (·.id)).Nodup)
    (hc : (request.connectors.map (·.id)).Nodup) (h : Rearranged request datasets connectors)
    {extra : List Dataset} (hp : datasets.Perm (request.datasets ++ extra))
    (he : ∀ dataset ∈ extra, dataset.id ≠ id) :
    Alike (catalogOf request) (catalogOf (withCatalog request datasets connectors)) id := by
  refine ⟨?_, fun dataset hf => ?_⟩
  · have hlookup : (catalogOf (withCatalog request datasets connectors)).datasets.reverse.find?
        (·.id == id) = (catalogOf request).datasets.reverse.find? (·.id == id) :=
      find?_reverse_of_perm hd hp he
    rw [Catalog.dataset, Catalog.dataset, hlookup]
  · exact connectorOf_rearranged hc h (Catalog.dataset_eq_ok.1 hf).mem

theorem stages_rearranged (hd : (request.datasets.map (·.id)).Nodup)
    (hc : (request.connectors.map (·.id)).Nodup) (h : Rearranged request datasets connectors) :
    (inputWith settings checker (withCatalog request datasets connectors) csmSimulationId
        template).stages =
      (inputWith settings checker request csmSimulationId template).stages := by
  obtain ⟨extra, hp, hextra⟩ := h.datasets
  have hfetch (run : RunContext) :
      Step.fetchDatasets run (catalogOf (withCatalog request datasets connectors))
          request.scenario =
        Step.fetchDatasets run (catalogOf request) request.scenario :=
    Step.fetchDatasets_congr fun id hid => alike_rearranged hd hc h hp
      fun dataset hm he => (hextra dataset hm).1 (he ▸ hid)
  have hparameters (run : RunContext) (dependencies : Option (List String)) :
      Step.fetchDatasetParameters run (catalogOf (withCatalog request datasets connectors))
          request.scenario request.solution dependencies =
        Step.fetchDatasetParameters run (catalogOf request) request.scenario request.solution
          dependencies :=
    Step.fetchDatasetParameters_congr fun value hv ids hn id hid => alike_rearranged hd hc h hp
      fun dataset hm he => (hextra dataset hm).2 value hv ids hn (he ▸ hid)
  have hfirst : (inputWith settings checker (withCatalog request datasets connectors)
      csmSimulationId template).datasetFetch =
        (inputWith settings checker request csmSimulationId template).datasetFetch :=
    congrArg (fun built => Stage.mk _ _ (fun _ => Traced.ofExcept built) _ _) (hfetch _)
  have hthird : (inputWith settings checker (withCatalog request datasets connectors)
      csmSimulationId template).datasetParameterFetch =
        (inputWith settings checker request csmSimulationId template).datasetParameterFetch :=
    congrArg (fun built => Stage.mk _ _ (fun given => Traced.ofExcept (built given)) _ _)
      (funext (hparameters _))
  -- the other stages do not look into the catalog
  rw [Input.stages, Input.stages, hfirst, hthird]
  rfl

theorem input_eq_map (settings : PlatformSettings) (checker : EventHubChecker)
    (request : RunRequest) (csmSimulationId : String) :
    input settings checker request csmSimulationId =
      (request.solution.template request.scenario.runTemplateId).map
        (inputWith settings checker request csmSimulationId) := by
  unfold input
  cases request.solution.template request.scenario.runTemplateId <;> rfl

theorem containers_rearranged (hd : (request.datasets.map (·.id)).Nodup)
    (hc : (request.connectors.map (·.id)).Nodup) (h : Rearranged request datasets connectors) :
    containers settings checker (withCatalog request datasets connectors) csmSimulationId =
      containers settings checker request csmSimulationId := by
  have ht : (withCatalog request datasets connectors).solution.template
      (withCatalog request datasets connectors).scenario.runTemplateId =
        request.solution.template request.scenario.runTemplateId := rfl
  unfold containers
  rw [input_eq_map, input_eq_map, ht]
  cases request.solution.template request.scenario.runTemplateId with
  | error f => rfl
  | ok template =>
    change (Stage.linkAll _ >>= _) = (Stage.linkAll _ >>= _)
    rw [stages_rearranged hd hc h]
    rfl

/-- The order of the datasets and of the connectors of a request does not matter, nor do datasets
and connectors to which it does not refer: it starts with the same containers, or fails with the
same failure, after the same questions about event hubs. -/
theorem start_rearranged (hd : (request.datasets.map (·.id)).Nodup)
    (hc : (request.connectors.map (·.id)).Nodup) (h : Rearranged request datasets connectors)
    (settings : PlatformSettings) (checker : EventHubChecker) (freshId : String) :
    start settings checker { request with datasets, connectors } freshId =
      start settings checker request freshId := by
  have hcontainers :
      containers settings checker (withCatalog request datasets connectors)
          (simulationId request freshId) =
        containers settings checker request (simulationId request freshId) :=
    containers_rearranged hd hc h
  unfold start
  change (_ >>= fun template =>
    containers settings checker (withCatalog request datasets connectors)
      (simulationId request freshId) >>= _) = _
  rw [hcontainers]
  rfl

/-- A request that fetches a dataset of the scenario and one that a parameter names. -/
def pairRequest : RunRequest :=
  { smallRequest none with
    solution := { (smallRequest none).solution with
      parameters := [⟨"single", some Placeholder.datasetIdToken, none⟩] }
    scenario := { (smallRequest none).scenario with
      datasetList := ["d-1"]
      parametersValues := [⟨"single", "d-2", none⟩] }
    datasets := [⟨"d-1", none, some ⟨some "c-1", none, none, .empty⟩⟩,
      ⟨"d-2", none, some ⟨some "c-2", none, none, .empty⟩⟩]
    connectors := [⟨"c-1", none, none, "first", none, none, none, []⟩,
      ⟨"c-2", none, none, "second", none, none, none, []⟩] }

/-- A dataset that the request does not fetch. -/
def spareDataset : Dataset := ⟨"d-3", none, some ⟨some "c-3", none, none, .empty⟩⟩

/-- A connector that no dataset of the request has. -/
def spareConnector : Connector := ⟨"c-3", none, none, "third", none, none, none, []⟩

/-- The datasets and connectors of the request in reverse order, and one more of each. -/
theorem pairRequest_rearranged :
    (start smallPlatform none
      { pairRequest with
        datasets := spareDataset :: pairRequest.datasets.reverse
        connectors := pairRequest.connectors.reverse ++ [spareConnector] } "id" =
      start smallPlatform none pairRequest "id") ∧
    (start smallPlatform none pairRequest "id").outcome.map (·.containers.length) = .ok 9 := by
  have hnames (ids : List String)
      (hn : DatasetIds.Names pairRequest.solution ⟨"single", "d-2", none⟩ ids) : ids = ["d-2"] :=
    have hp : DatasetIds.parse "d-2" = .ok ["d-2"] := rfl
    (Except.ok.inj (hp.symm.trans hn.2.2)).symm
  have hd : ∀ dataset ∈ [spareDataset], dataset.id ∉ pairRequest.scenario.datasetList ∧
      ∀ value ∈ pairRequest.scenario.parametersValues, ∀ ids,
        DatasetIds.Names pairRequest.solution value ids → dataset.id ∉ ids := by
    refine List.forall_mem_singleton.2 ⟨by decide, List.forall_mem_singleton.2 fun ids hn => ?_⟩
    rw [hnames ids hn]
    decide
  have hc : ∀ connector ∈ [spareConnector], ∀ dataset ∈ pairRequest.datasets,
      dataset.connectorId? ≠ some connector.id := by
    decide
  refine ⟨start_rearranged (by decide) (by decide) ⟨⟨_, ?_, hd⟩, _, ?_, hc⟩ _ _ _,
    by decide +kernel⟩
  · exact (List.perm_append_singleton _ _).symm.trans ((List.reverse_perm _).append_right _)
  · exact (List.reverse_perm _).append_right _

end Pipeline

end ScenarioCompiler
