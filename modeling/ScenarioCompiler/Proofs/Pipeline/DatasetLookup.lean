import ScenarioCompiler.Proofs.Pipeline.Compile

namespace ScenarioCompiler.Pipeline

open Stage

variable {settings : PlatformSettings} {checker : EventHubChecker} {request : RunRequest}
  {csmSimulationId id : String} {template : RunTemplate} {collected : List String}

/-- A dataset that is missing is one of the scenario or one that a value of a parameter names. -/
theorem missing_of_buildFailure {input : Input} {kind : StageKind}
    (h : input.BuildFailure kind (.unknownDataset id)) :
    (∀ dataset ∈ input.catalog.datasets, dataset.id ≠ id) ∧
      (id ∈ input.scenario.datasetList ∨ kind = .datasetParameterFetch ∧
        ∃ value ∈ input.scenario.parametersValues, ∃ named,
          DatasetIds.Names input.solution value named ∧ id ∈ named) := by
  have missing {other : String} (hf : Step.FetchFailure input.catalog other (.unknownDataset id)) :
      other = id ∧ ∀ dataset ∈ input.catalog.datasets, dataset.id ≠ id := by
    rcases hf with ⟨he, hd⟩ | ⟨_, _, he⟩ | he | ⟨_, he⟩
    · obtain rfl := Failure.unknownDataset.inj he
      exact ⟨rfl, hd⟩
    · cases he
    · cases he
    · cases he
  cases h with
  | credentials h =>
    rcases h with he | ⟨_, he⟩
    · cases he
    · cases he
  | dataset hid hf =>
    obtain ⟨rfl, hd⟩ := missing hf
    exact ⟨hd, .inl hid⟩
  | parameterDataset hv hn hid hf =>
    obtain ⟨rfl, hd⟩ := missing hf
    exact ⟨hd, .inr ⟨rfl, _, hv, _, hn, hid⟩⟩

/-- Of the stages of a run only one fetches the datasets of parameters. -/
theorem fetchParameters_of_enabled {input : Input} {stage : Stage Compile}
    (hm : stage ∈ input.stages) (hk : stage.kind = .datasetParameterFetch)
    (he : stage.enabled = true) : isStepEnabled input.template.fetchScenarioParameters = true := by
  have hall : ∀ s ∈ input.stages, s.kind = .datasetParameterFetch → s.enabled = true →
      isStepEnabled input.template.fetchScenarioParameters = true := by
    simp only [Input.stages, List.forall_mem_cons, List.not_mem_nil, false_implies, implies_true,
      and_true]
    refine ⟨?_, ?_, fun _ h => h, ?_, ?_, ?_, ?_, ?_, ?_⟩
    all_goals
      intro h
      cases h
  exact hall stage hm hk he

/-- When all datasets are given that were looked up for a scenario, only one that a parameter
outside the groups of the run template names can be missing. -/
theorem missing_dataset_ungrouped
    (ht : request.solution.template request.scenario.runTemplateId = .ok template)
    (hc : DatasetIds.collect request.scenario request.solution template = .ok collected)
    (hs : ∀ id ∈ collected, ∃ dataset ∈ request.datasets, dataset.id = id)
    (h : (containers settings checker request csmSimulationId).outcome =
      .error (.unknownDataset id)) :
    isStepEnabled template.fetchScenarioParameters = true ∧
      ∃ value ∈ request.scenario.parametersValues, ∃ named,
        DatasetIds.Names request.solution value named ∧ id ∈ named ∧
        value.parameterId ∉ DatasetIds.groupedParameters request.solution
          (template.parameterGroups.getD []) := by
  rcases containers_eq_error h with ⟨_, _, he⟩ | ⟨found, ht', stage, hm, he, hf⟩
  · cases he
  obtain rfl := Except.ok.inj (ht.symm.trans ht')
  obtain ⟨hmissing, hid⟩ := missing_of_buildFailure hf
  -- all that was looked up is given, so what is missing was not looked up
  have hnot : id ∉ collected := by
    intro hid
    obtain ⟨dataset, hd, hname⟩ := hs id hid
    exact hmissing dataset hd hname
  rcases hid with hid | ⟨hk, value, hv, named, hn, hid⟩
  · exact absurd (DatasetIds.mem_collect_of_datasetList hc hid) hnot
  · refine ⟨fetchParameters_of_enabled hm hk he, value, hv, named, hn, hid, fun hg => ?_⟩
    exact hnot (DatasetIds.mem_collect_of_names hc hv hn hg hid)

/-- A request with a dataset of the scenario that is given, and one that a parameter outside all
groups names and that is not. -/
def ungroupedRequest : RunRequest :=
  { smallRequest none with
    solution := { (smallRequest none).solution with
      parameters := [⟨"parameter", some Placeholder.datasetIdToken, none⟩] }
    scenario := { (smallRequest none).scenario with
      datasetList := ["d-0"]
      parametersValues := [⟨"parameter", "d-1", none⟩] }
    datasets := [⟨"d-0", none, some ⟨some "c-1", none, none, .empty⟩⟩]
    connectors := [⟨"c-1", none, none, "connector", none, none, none, []⟩] }

theorem ungroupedRequest_missing_dataset :
    DatasetIds.collect ungroupedRequest.scenario ungroupedRequest.solution (smallTemplate none) =
        .ok ["d-0"] ∧
      isStepEnabled (smallTemplate none).fetchScenarioParameters = true ∧
      ∃ value ∈ ungroupedRequest.scenario.parametersValues, ∃ named,
        DatasetIds.Names ungroupedRequest.solution value named ∧ "d-1" ∈ named ∧
        value.parameterId ∉ DatasetIds.groupedParameters ungroupedRequest.solution [] := by
  have ht : ungroupedRequest.solution.template ungroupedRequest.scenario.runTemplateId =
      .ok (smallTemplate none) := rfl
  have hc : DatasetIds.collect ungroupedRequest.scenario ungroupedRequest.solution
      (smallTemplate none) = .ok ["d-0"] := rfl
  have hs : ∀ id ∈ ["d-0"], ∃ dataset ∈ ungroupedRequest.datasets, dataset.id = id := by decide
  have h : (containers smallPlatform none ungroupedRequest "id").outcome =
      .error (.unknownDataset "d-1") := rfl
  exact ⟨hc, missing_dataset_ungrouped ht hc hs h⟩

/-- The datasets that are looked up for a scenario are not all that its compilation needs. -/
theorem collect_not_sufficient :
    ∃ template collected,
      ungroupedRequest.solution.template ungroupedRequest.scenario.runTemplateId = .ok template ∧
      DatasetIds.collect ungroupedRequest.scenario ungroupedRequest.solution template =
        .ok collected ∧
      (∀ id ∈ collected, ∃ dataset ∈ ungroupedRequest.datasets, dataset.id = id) ∧
      (containers smallPlatform none ungroupedRequest "id").outcome =
        .error (.unknownDataset "d-1") :=
  ⟨smallTemplate none, ["d-0"], rfl, rfl, by decide, rfl⟩

end ScenarioCompiler.Pipeline
