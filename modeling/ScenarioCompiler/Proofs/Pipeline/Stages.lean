import ScenarioCompiler.Proofs.Pipeline.Linking
import ScenarioCompiler.Proofs.Step.Fetch
import ScenarioCompiler.Proofs.Step.Solution

namespace ScenarioCompiler

theorem Container.waitsFor_subset (c : Container) : c.waitsFor ⊆ c.dependencies.getD [] :=
  fun _ hd => (Container.mem_waitsFor.1 hd).1

theorem StageKind.stem_containerName {kind : StageKind} {step : SolutionStep}
    (h : kind.step? = some step) : stem step.containerName = kind.baseName.toList := by
  cases kind <;> cases h <;> decide +kernel

/-- One container that does not run the solution. -/
theorem built_singleton {kind : StageKind} {dependencies : Option (List String)} {c : Container}
    (hk : kind.step? = none) (hstem : stem c.name = kind.baseName.toList)
    (hd : c.dependencies = dependencies) (hs : c.solutionContainer = false) :
    Built kind dependencies [c] where
  names_nodup := by simp
  stem_eq := by simpa using hstem
  waitsFor_subset := by simpa [← hd] using c.waitsFor_subset
  plain _ := by simpa using hs
  solution step h := by simp [hk] at h

namespace Step

theorem stem_fetchParametersName : stem fetchParametersName = fetchParametersName.toList := by
  decide +kernel

theorem stem_warehouseName : stem warehouseName = warehouseName.toList := by
  decide +kernel

/-- Numbered containers that wait for the given names, or for nothing. -/
theorem built_of_fetchNumbered {kind : StageKind} {run : RunContext} {catalog : Catalog}
    {forParameter : Bool} {dependencies given : Option (List String)} {index : Nat}
    {items : List (Option String × String)} {containers : List Container}
    (hk : kind.step? = none)
    (hb : kind.baseName = if forParameter then fetchDatasetParametersName else fetchDatasetName)
    (hg : given = some [rootDependency] ∨ given = dependencies)
    (h : fetchNumbered run catalog forParameter given index items = .ok containers) :
    Built kind dependencies containers where
  names_nodup := names_fetchNumbered_nodup h
  stem_eq c hc := by
    have hn : c.name ∈ (List.range' index items.length).map (fetchName forParameter) :=
      names_fetchNumbered h ▸ List.mem_map_of_mem hc
    obtain ⟨number, -, hname⟩ := List.mem_map.1 hn
    rw [← hname, stem_fetchName, hb]
  waitsFor_subset c hc := by
    have hd := (mem_fetchNumbered h hc).1
    rcases hg with rfl | rfl
    · simp [Container.waitsFor, hd]
    · exact hd ▸ c.waitsFor_subset
  plain _ c hc := (mem_fetchNumbered h hc).2
  solution step h := by simp [hk] at h

end Step

namespace Pipeline.Input

open Stage

variable (input : Input)

theorem datasetFetch_sound : input.datasetFetch.Sound where
  built _ _ h := Step.built_of_fetchNumbered rfl rfl (.inl rfl) h
  advances h := absurd rfl h

theorem scenarioParameterFetch_sound : input.scenarioParameterFetch.Sound where
  built dependencies cs h := by
    obtain ⟨c, hc, rfl⟩ := map_eq_ok.1 h
    obtain ⟨hname, hd, hs⟩ := Step.fetchParameters_eq_ok hc
    exact built_singleton rfl (hname ▸ Step.stem_fetchParametersName) hd hs
  advances h := absurd rfl h

theorem datasetParameterFetch_sound : input.datasetParameterFetch.Sound where
  built _ _ h :=
    Step.built_of_fetchNumbered rfl rfl (.inr rfl) (Step.fetchDatasetParameters_eq_ok h).2
  advances h := absurd rfl h

theorem sendToWarehouse_sound : input.sendToWarehouse.Sound where
  built dependencies cs h := by
    obtain ⟨c, hc, rfl⟩ := map_eq_ok.1 h
    obtain ⟨hname, hd, hs⟩ := Step.sendToWarehouse_eq_ok hc
    exact built_singleton rfl (hname ▸ Step.stem_warehouseName) hd hs
  advances h := absurd rfl h

theorem solutionStage_eq_ok {kind : StageKind} {step : SolutionStep}
    {dependencies : Option (List String)} {built : List Container} :
    ((input.solutionStage kind step).build dependencies).outcome = .ok built ↔
      ∃ c, (Step.runSolution input.run input.checker input.solution input.template.id step
        dependencies input.sizing).outcome = .ok c ∧ built = [c] := by
  simp only [solutionStage, Traced.outcome_bind, Traced.outcome_pure, bind_eq_ok, Except.ok.injEq]
  exact exists_congr fun _ => and_congr_right fun _ => eq_comm

theorem solutionStage_sound {kind : StageKind} {step : SolutionStep} (hk : kind.step? = some step) :
    (input.solutionStage kind step).Sound where
  built dependencies cs h := by
    obtain ⟨c, hc, rfl⟩ := input.solutionStage_eq_ok.1 h
    obtain ⟨hname, hd, hs, hmode⟩ := Step.runSolution_eq_ok hc
    exact {
      names_nodup := by simp
      stem_eq := fun x hx => by
        rw [List.mem_singleton.1 hx, hname]
        exact StageKind.stem_containerName hk
      waitsFor_subset := by simpa [← hd] using c.waitsFor_subset
      plain := fun h => by cases hk.symm.trans h
      solution := fun other h => by
        obtain rfl := Option.some.inj (hk.symm.trans h)
        exact ⟨c, rfl, hname, hd, hs, hmode⟩ }
  advances _ := rfl

/-- All stages of a run are sound. -/
theorem stages_sound : ∀ stage ∈ input.stages, stage.Sound := by
  simp only [stages, List.forall_mem_cons, List.not_mem_nil, false_implies, implies_true, and_true]
  exact ⟨input.datasetFetch_sound, input.scenarioParameterFetch_sound,
    input.datasetParameterFetch_sound, input.solutionStage_sound rfl, input.solutionStage_sound rfl,
    input.sendToWarehouse_sound, input.solutionStage_sound rfl, input.solutionStage_sound rfl,
    input.solutionStage_sound rfl⟩

theorem kinds_nodup : (input.stages.map (·.kind)).Nodup := by
  have hk : input.stages.map (·.kind) = StageKind.all := rfl
  rw [hk]
  decide

/-- The stage of a kind. -/
def stageOf : StageKind → Stage Compile
  | .datasetFetch => input.datasetFetch
  | .scenarioParameterFetch => input.scenarioParameterFetch
  | .datasetParameterFetch => input.datasetParameterFetch
  | .applyParameters => input.solutionStage .applyParameters .applyParameters
  | .validate => input.solutionStage .validate .validate
  | .sendToWarehouse => input.sendToWarehouse
  | .preRun => input.solutionStage .preRun .preRun
  | .run => input.solutionStage .run .run
  | .postRun => input.solutionStage .postRun .postRun

theorem stages_eq : input.stages = StageKind.all.map input.stageOf := rfl

theorem stageOf_mem (kind : StageKind) : input.stageOf kind ∈ input.stages :=
  List.mem_map_of_mem kind.mem_all

theorem kind_stageOf (kind : StageKind) : (input.stageOf kind).kind = kind := by
  cases kind <;> rfl

variable {input} {kind : StageKind} {step : SolutionStep} {dependencies : Option (List String)}
  {f : Failure}

theorem stageOf_eq_solutionStage (h : kind.step? = some step) :
    input.stageOf kind = input.solutionStage kind step := by
  cases kind <;> cases h <;> rfl

theorem enabled_stageOf (h : kind.step? = some step) :
    (input.stageOf kind).enabled = step.isEnabled input.template := by
  rw [stageOf_eq_solutionStage h]
  rfl

/-- Every solution container of a run is built for a step. -/
theorem exists_runSolution_of_linked {frontier : List String} {linked : List Container}
    {c : Container} (h : Linked frontier input.stages linked) (hc : c ∈ linked)
    (hs : c.solutionContainer = true) :
    ∃ step dependencies, (Step.runSolution input.run input.checker input.solution
      input.template.id step dependencies input.sizing).outcome = .ok c := by
  obtain ⟨stage, hm, dependencies, built, hb, hc⟩ := h.exists_stage hc
  obtain ⟨kind, -, rfl⟩ := List.mem_map.1 (input.stages_eq ▸ hm)
  cases hk : kind.step? with
  | none =>
    have hbuilt := (input.stages_sound _ hm).built _ _ hb
    rw [kind_stageOf] at hbuilt
    simp [hbuilt.plain hk c hc] at hs
  | some step =>
    rw [stageOf_eq_solutionStage hk] at hb
    obtain ⟨x, hx, rfl⟩ := input.solutionStage_eq_ok.1 hb
    rw [List.mem_singleton.1 hc]
    exact ⟨step, dependencies, hx⟩

/-! ### Success and failure -/

/-- What the stage of a kind needs. -/
def Buildable (input : Input) : StageKind → Prop
  | .datasetFetch =>
    ∀ id ∈ input.scenario.datasetList, Step.Usable input.run.settings input.catalog id
  | .datasetParameterFetch =>
    (∀ value ∈ input.scenario.parametersValues, DatasetIds.Readable input.solution value) ∧
      ∀ value ∈ input.scenario.parametersValues, ∀ ids,
        DatasetIds.Names input.solution value ids →
          ∀ id ∈ ids, Step.Usable input.run.settings input.catalog id
  | .scenarioParameterFetch | .sendToWarehouse =>
    Environment.BaseAuthentication input.run.settings
  | .applyParameters | .validate | .preRun | .run | .postRun =>
    Environment.BaseAuthentication input.run.settings ∧ EventHub.BusConfigured input.run.settings

/-- Why the stage of a kind cannot be built. -/
inductive BuildFailure (input : Input) : StageKind → Failure → Prop
  | credentials {kind : StageKind} {f : Failure} (h : f.AboutCredentials) :
      BuildFailure input kind f
  | dataset {id : String} {f : Failure} (hid : id ∈ input.scenario.datasetList)
      (h : Step.FetchFailure input.catalog id f) : BuildFailure input .datasetFetch f
  | unknownParameter (parameterId : String) (solutionId : Option String) :
      BuildFailure input .datasetParameterFetch (.unknownParameter parameterId solutionId)
  | malformedIds (text reason : String) :
      BuildFailure input .datasetParameterFetch (.malformedDatasetIds text reason)
  | parameterDataset {value : ParameterValue} {ids : List String} {id : String} {f : Failure}
      (hv : value ∈ input.scenario.parametersValues)
      (hn : DatasetIds.Names input.solution value ids) (hid : id ∈ ids)
      (h : Step.FetchFailure input.catalog id f) : BuildFailure input .datasetParameterFetch f

theorem BuildFailure.ofInputs (h : BuildFailure input kind f) : f.OfInputs := by
  cases h with
  | credentials h => exact h.ofInputs
  | dataset _ h => exact h.ofInputs
  | unknownParameter => trivial
  | malformedIds => trivial
  | parameterDataset _ _ _ h => exact h.ofInputs

theorem exists_solutionStage_eq_ok
    (ht : input.solution.template input.template.id = .ok input.template) :
    (∃ cs, ((input.solutionStage kind step).build dependencies).outcome = .ok cs) ↔
      Environment.BaseAuthentication input.run.settings ∧
        EventHub.BusConfigured input.run.settings := by
  rw [← Step.exists_runSolution_eq_ok ht]
  simp only [solutionStage_eq_ok]
  constructor
  · rintro ⟨_, c, hc, -⟩
    exact ⟨c, hc⟩
  · rintro ⟨c, hc⟩
    exact ⟨[c], c, hc, rfl⟩

theorem solutionStage_eq_error
    (ht : input.solution.template input.template.id = .ok input.template)
    (h : ((input.solutionStage kind step).build dependencies).outcome = .error f) :
    BuildFailure input kind f := by
  simp only [solutionStage, Traced.outcome_bind, Traced.outcome_pure, bind_eq_error, reduceCtorEq,
    and_false, exists_false, or_false] at h
  exact .credentials (Step.runSolution_eq_error ht h)

theorem exists_map_eq_ok {x : Except Failure Container} :
    (∃ cs, x.map ([·]) = .ok cs) ↔ ∃ c, x = .ok c := by
  simp [map_eq_ok]

theorem exists_build_eq_ok
    (ht : input.solution.template input.template.id = .ok input.template) :
    ∀ stage ∈ input.stages, ∀ dependencies,
      (∃ cs, (stage.build dependencies).outcome = .ok cs) ↔ input.Buildable stage.kind := by
  simp only [stages, List.forall_mem_cons, List.not_mem_nil, false_implies, implies_true, and_true]
  have hsolution := fun kind step dependencies =>
    @exists_solutionStage_eq_ok input kind step dependencies ht
  refine ⟨fun _ => Step.exists_fetchDatasets_eq_ok, fun _ => ?_,
    fun _ => Step.exists_fetchDatasetParameters_eq_ok, hsolution _ _, hsolution _ _, fun _ => ?_,
    hsolution _ _, hsolution _ _, hsolution _ _⟩
  · exact exists_map_eq_ok.trans Step.exists_fetchParameters_eq_ok
  · exact exists_map_eq_ok.trans Step.exists_sendToWarehouse_eq_ok

theorem build_eq_error
    (ht : input.solution.template input.template.id = .ok input.template) :
    ∀ stage ∈ input.stages, ∀ dependencies, (stage.build dependencies).outcome = .error f →
      BuildFailure input stage.kind f := by
  simp only [stages, List.forall_mem_cons, List.not_mem_nil, false_implies, implies_true, and_true]
  refine ⟨fun _ h => ?_, fun _ h => ?_, fun _ h => ?_, fun _ => solutionStage_eq_error ht,
    fun _ => solutionStage_eq_error ht, fun _ h => ?_, fun _ => solutionStage_eq_error ht,
    fun _ => solutionStage_eq_error ht, fun _ => solutionStage_eq_error ht⟩
  · obtain ⟨id, hid, hf⟩ := Step.fetchDatasets_eq_error h
    exact .dataset hid hf
  · exact .credentials (Step.fetchParameters_eq_error (map_eq_error.1 h))
  · rcases Step.fetchDatasetParameters_eq_error h with
      ⟨_, _, rfl⟩ | ⟨_, _, rfl⟩ | ⟨value, hv, ids, hn, id, hid, hf⟩
    · exact .unknownParameter _ _
    · exact .malformedIds _ _
    · exact .parameterDataset hv hn hid hf
  · exact .credentials (Step.sendToWarehouse_eq_error (map_eq_error.1 h))

end Pipeline.Input

end ScenarioCompiler
