import ScenarioCompiler.Proofs.Pipeline.Compile

namespace ScenarioCompiler.Pipeline

open Environment EventHub Stage

/-- The datasets and connectors that come with a request. -/
def catalogOf (request : RunRequest) : Catalog := ⟨request.datasets, request.connectors⟩

/-- A value belongs to a parameter of the solution; if it names datasets, it can be read and all of
them can be fetched. The last definition of a parameter counts. -/
def ValueUsable (settings : PlatformSettings) (request : RunRequest) (value : ParameterValue) :
    Prop :=
  ∃ parameter, IsLast (·.id = value.parameterId) request.solution.parameters parameter ∧
    (Placeholder.classify parameter.varType = .datasetId → value.value ≠ "" →
      ∃ ids, DatasetIds.parse value.value = .ok ids ∧
        ∀ id ∈ ids, Step.Usable settings (catalogOf request) id)

/-- What a request needs to be compiled with a run template. -/
structure Compilable (settings : PlatformSettings) (request : RunRequest)
    (template : RunTemplate) : Prop where
  datasets : template.fetchDatasets ≠ some false →
    ∀ id ∈ request.scenario.datasetList, Step.Usable settings (catalogOf request) id
  parameters : template.fetchScenarioParameters ≠ some false → BaseAuthentication settings ∧
    ∀ value ∈ request.scenario.parametersValues, ValueUsable settings request value
  warehouse : (Step.WarehouseContent.of request.workspace template).parameters = true ∨
    (Step.WarehouseContent.of request.workspace template).datasets = true →
      BaseAuthentication settings
  solution : ∀ step : SolutionStep, step.isEnabled template = true →
    BaseAuthentication settings ∧ BusConfigured settings

variable {settings : PlatformSettings} {request : RunRequest} {template : RunTemplate}
  {input : Input}

theorem isStepEnabled_iff {switch : Option Bool} :
    isStepEnabled switch = true ↔ switch ≠ some false := by
  rcases switch with _ | _ | _ <;> decide

theorem valueUsable_iff {value : ParameterValue} : ValueUsable settings request value ↔
    DatasetIds.Readable request.solution value ∧
      ∀ ids, DatasetIds.Names request.solution value ids →
        ∀ id ∈ ids, Step.Usable settings (catalogOf request) id := by
  constructor
  · rintro ⟨parameter, hl, hu⟩
    have hd := DatasetIds.ofDatasets_iff (DatasetIds.parameter?_eq_some.2 hl)
    refine ⟨⟨⟨parameter, hl⟩, fun ho hv => ?_⟩, fun ids ⟨ho, hv, hp⟩ => ?_⟩
    · obtain ⟨ids, hp, -⟩ := hu (hd.1 ho) hv
      exact ⟨ids, hp⟩
    · obtain ⟨ids', hp', hall⟩ := hu (hd.1 ho) hv
      rwa [Except.ok.inj (hp.symm.trans hp')]
  · rintro ⟨⟨⟨parameter, hl⟩, hread⟩, hall⟩
    refine ⟨parameter, hl, fun hc hv => ?_⟩
    have ho : DatasetIds.OfDatasets request.solution value.parameterId := ⟨parameter, hl, hc⟩
    obtain ⟨ids, hp⟩ := hread ho hv
    exact ⟨ids, hp, hall ids ⟨ho, hv, hp⟩⟩

theorem forall_valueUsable_iff :
    (∀ value ∈ request.scenario.parametersValues, ValueUsable settings request value) ↔
      (∀ value ∈ request.scenario.parametersValues,
        DatasetIds.Readable request.solution value) ∧
      ∀ value ∈ request.scenario.parametersValues, ∀ ids,
        DatasetIds.Names request.solution value ids →
          ∀ id ∈ ids, Step.Usable settings (catalogOf request) id := by
  simp only [valueUsable_iff]
  exact forall₂_and

/-- The stages of a run can be linked just when every enabled one has what it needs. -/
theorem exists_linked_iff (ht : input.solution.template input.template.id = .ok input.template) :
    (∃ linked, Linked [] input.stages linked) ↔
      ∀ stage ∈ input.stages, stage.enabled = true → input.Buildable stage.kind := by
  rw [← exists_link_eq_ok (Input.exists_build_eq_ok ht)]
  exact exists_congr fun _ => link_eq_ok.symm

theorem forall_buildable_iff (checker : EventHubChecker) (csmSimulationId : String) :
    (∀ stage ∈ (inputWith settings checker request csmSimulationId template).stages,
      stage.enabled = true →
        (inputWith settings checker request csmSimulationId template).Buildable stage.kind) ↔
      Compilable settings request template := by
  simp only [Input.stages, List.forall_mem_cons, List.not_mem_nil, false_implies, implies_true,
    and_true]
  constructor
  · rintro ⟨hd, hp, hdp, happly, hvalidate, hw, hpre, hrun, hpost⟩
    refine ⟨fun h => hd (isStepEnabled_iff.2 h), fun h => ?_,
      fun h => hw (Bool.or_eq_true_iff.2 h), fun step h => ?_⟩
    · exact ⟨hp (isStepEnabled_iff.2 h), forall_valueUsable_iff.2 (hdp (isStepEnabled_iff.2 h))⟩
    · cases step with
      | applyParameters => exact happly h
      | validate => exact hvalidate h
      | preRun => exact hpre h
      | run => exact hrun h
      | postRun => exact hpost h
  · rintro ⟨hd, hp, hw, hs⟩
    refine ⟨fun h => hd (isStepEnabled_iff.1 h), fun h => (hp (isStepEnabled_iff.1 h)).1,
      fun h => forall_valueUsable_iff.1 (hp (isStepEnabled_iff.1 h)).2, hs .applyParameters,
      hs .validate, fun h => hw (Bool.or_eq_true_iff.1 h), hs .preRun, hs .run, hs .postRun⟩

/-- A run compiles just when its scenario names a run template and the request has what the enabled
steps of the template need; otherwise it fails for a reason that lies in its inputs. -/
theorem compiles_iff_compilable (settings : PlatformSettings) (checker : EventHubChecker)
    (request : RunRequest) (csmSimulationId : String) :
    ((∃ compiled, (containers settings checker request csmSimulationId).outcome = .ok compiled) ↔
      ∃ template, request.solution.runTemplates.find? (·.id == request.scenario.runTemplateId) =
        some template ∧ Compilable settings request template) ∧
    ∀ f, (containers settings checker request csmSimulationId).outcome = .error f →
      f.OfInputs := by
  refine ⟨?_, fun f => ofInputs_of_containers_eq_error⟩
  constructor
  · rintro ⟨compiled, h⟩
    obtain ⟨template, linked, ht, hl, -⟩ := containers_eq_ok.1 h
    refine ⟨template, template_eq_ok.1 ht, (forall_buildable_iff checker csmSimulationId).1 ?_⟩
    exact (exists_linked_iff (template_of_template_eq_ok ht)).1 ⟨linked, hl⟩
  · rintro ⟨template, hf, hc⟩
    have ht := template_eq_ok.2 hf
    obtain ⟨linked, hl⟩ := (exists_linked_iff (template_of_template_eq_ok ht)).2
      ((forall_buildable_iff checker csmSimulationId).2 hc)
    exact ⟨_, containers_eq_ok.2 ⟨template, linked, ht, hl, rfl⟩⟩

end ScenarioCompiler.Pipeline
