import ScenarioCompiler.Proofs.Pipeline.Compilable
import ScenarioCompiler.Proofs.Step.Download

namespace ScenarioCompiler.Pipeline

/-- The connector with which the container of a name fetches a dataset of the scenario or one that
a parameter of it names. -/
inductive FetchedWith (request : RunRequest) : String → Connector → Prop
  | dataset {id : String} {number : Nat} {dataset : Dataset} {connector : Connector}
      (listed : (id, number) ∈ request.scenario.datasetList.zipIdx 1)
      (supplied : (catalogOf request).Supplies id dataset connector) :
      FetchedWith request (Step.fetchName false number) connector
  | parameter {downloads : List (String × String)} {folder id : String} {number : Nat}
      {dataset : Dataset} {connector : Connector}
      (named : Step.ParameterDownloads request.solution request.scenario.parametersValues downloads)
      (listed : ((folder, id), number) ∈ downloads.zipIdx 1)
      (supplied : (catalogOf request).Supplies id dataset connector) :
      FetchedWith request (Step.fetchName true number) connector

namespace FetchedWith

variable {request : RunRequest} {name : String} {first second connector : Connector}

theorem stem_eq (h : FetchedWith request name connector) :
    ∃ forParameter : Bool, stem name = (if forParameter then Step.fetchDatasetParametersName
      else Step.fetchDatasetName).toList := by
  cases h with
  | dataset => exact ⟨false, Step.stem_fetchName false _⟩
  | parameter => exact ⟨true, Step.stem_fetchName true _⟩

theorem mem_connectors (h : FetchedWith request name connector) :
    connector ∈ request.connectors := by
  cases h with
  | dataset _ supplied => exact supplied.last_connector.mem
  | parameter _ _ supplied => exact supplied.last_connector.mem

/-- A container fetches with one connector only. -/
theorem unique (h : FetchedWith request name first) (h' : FetchedWith request name second) :
    first = second := by
  have hkinds : ∀ m n, Step.fetchName false m ≠ Step.fetchName true n := by
    intro m n he
    have hstem := congrArg stem he
    rw [Step.stem_fetchName, Step.stem_fetchName] at hstem
    exact absurd hstem (by decide)
  cases h with
  | @dataset id number _ _ listed supplied =>
    generalize hname : Step.fetchName false number = name at h'
    cases h' with
    | dataset listed' supplied' =>
      obtain rfl := Step.fetchName_injective hname
      obtain rfl := eq_of_mem_zipIdx listed listed'
      exact (supplied.unique supplied').2
    | parameter => exact absurd hname (hkinds _ _)
  | @parameter downloads folder id number _ _ named listed supplied =>
    generalize hname : Step.fetchName true number = name at h'
    cases h' with
    | dataset => exact absurd hname.symm (hkinds _ _)
    | parameter named' listed' supplied' =>
      obtain rfl := Step.fetchName_injective hname
      obtain rfl := named.unique named'
      obtain ⟨-, rfl⟩ := Prod.mk.inj (eq_of_mem_zipIdx listed listed')
      exact (supplied.unique supplied').2

theorem not_of_stem (h : ∀ forParameter : Bool, stem name ≠ (if forParameter then
    Step.fetchDatasetParametersName else Step.fetchDatasetName).toList) :
    ¬ FetchedWith request name connector := by
  intro hf
  obtain ⟨forParameter, hs⟩ := hf.stem_eq
  exact h forParameter hs

theorem not_mergedName (number : Nat) :
    ¬ FetchedWith request (Stack.mergedName number) connector := by
  refine not_of_stem fun forParameter => ?_
  rw [Stack.stem_mergedName]
  cases forParameter <;> decide

theorem not_step (step : SolutionStep) : ¬ FetchedWith request step.containerName connector := by
  refine not_of_stem fun forParameter => ?_
  cases step <;> cases forParameter <;> decide +kernel

theorem not_fetchParametersName : ¬ FetchedWith request Step.fetchParametersName connector := by
  refine not_of_stem fun forParameter => ?_
  rw [Step.stem_fetchParametersName]
  cases forParameter <;> decide

theorem not_warehouseName : ¬ FetchedWith request Step.warehouseName connector := by
  refine not_of_stem fun forParameter => ?_
  rw [Step.stem_warehouseName]
  cases forParameter <;> decide

end FetchedWith

variable {request : RunRequest} {run : RunContext} {forParameter : Bool}
  {dependencies : Option (List String)} {items : List (Option String × String)}
  {containers : List Container} {c : Container}

/-- Each numbered container fetches a dataset with the connector of its name. -/
theorem exists_fetchDataset_of_mem
    (hitems : ∀ entry ∈ items.zipIdx 1, ∀ dataset connector,
      (catalogOf request).Supplies entry.1.2 dataset connector →
        FetchedWith request (Step.fetchName forParameter entry.2) connector)
    (h : Step.fetchNumbered run (catalogOf request) forParameter dependencies 1 items =
      .ok containers) (hc : c ∈ containers) :
    ∃ dataset connector target, FetchedWith request c.name connector ∧
      Step.fetchDataset run dataset connector target dependencies = .ok c := by
  obtain ⟨entry, hm, dataset, connector, hs, hf⟩ :=
    exists_mem_of_forall₂ (Step.fetchNumbered_eq_ok_iff.1 h) hc
  refine ⟨dataset, connector, _, ?_, hf⟩
  rw [(Step.fetchDataset_eq_ok hf).1]
  exact hitems entry hm dataset connector hs

theorem fetchedWith_of_datasetList :
    ∀ entry ∈ (request.scenario.datasetList.map fun id => ((none : Option String), id)).zipIdx 1,
      ∀ dataset connector, (catalogOf request).Supplies entry.1.2 dataset connector →
        FetchedWith request (Step.fetchName false entry.2) connector := by
  intro entry hm dataset connector hs
  rw [List.zipIdx_map] at hm
  obtain ⟨item, hitem, rfl⟩ := List.mem_map.1 hm
  exact .dataset hitem hs

theorem fetchedWith_of_namedDatasets
    (h : (DatasetIds.perParameter request.solution request.scenario.parametersValues).2 = none) :
    ∀ entry ∈ (Step.namedDatasets request.solution request.scenario).zipIdx 1,
      ∀ dataset connector, (catalogOf request).Supplies entry.1.2 dataset connector →
        FetchedWith request (Step.fetchName true entry.2) connector := by
  intro entry hm dataset connector hs
  rw [Step.namedDatasets, List.zipIdx_map] at hm
  obtain ⟨item, hitem, rfl⟩ := List.mem_map.1 hm
  exact .parameter (Step.parameterDownloads_of_perParameter h) hitem hs

end ScenarioCompiler.Pipeline
