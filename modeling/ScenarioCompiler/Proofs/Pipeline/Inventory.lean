import ScenarioCompiler.Proofs.Pipeline.Barrier
import ScenarioCompiler.Proofs.Pipeline.Compilable
import ScenarioCompiler.Proofs.Step.Download

namespace ScenarioCompiler

namespace Stage

variable {stage : Stage Compile} {dependencies : Option (List String)} {built : List Container}

theorem contribution_of_enabled (h : stage.enabled = true) :
    stage.contribution dependencies = stage.build dependencies :=
  if_pos h

theorem contribution_of_disabled (h : ¬ stage.enabled = true) :
    (stage.contribution dependencies).outcome = .ok built ↔ built = [] := by
  rw [contribution, if_neg h, Traced.outcome_pure, Except.ok.injEq, eq_comm]

end Stage

namespace Pipeline

open Stage

/-- The container of a step of the solution, or without a step the one of the warehouse. -/
def RunsStep : Option SolutionStep → Container → Prop
  | some step, c => c.name = step.containerName ∧ c.solutionContainer = true ∧
      c.mode = some step.mode
  | none, c => c.name = Step.warehouseName ∧ c.solutionContainer = false

namespace Input

/-- One container for each dataset of the scenario, numbered from 1 on. -/
def DatasetFetches (input : Input) (cs : List Container) : Prop :=
  if input.template.fetchDatasets = some false then cs = []
  else List.Forall₂ (fun (entry : String × Nat) c => Step.Fetches input.run input.catalog
    (Step.fetchName false entry.2) Environment.datasetPath entry.1 c)
    (input.scenario.datasetList.zipIdx 1) cs

/-- The container of the parameters of the scenario and one for each dataset that they name,
numbered from 1 on over all parameters. -/
def ParameterFetches (input : Input) (cs : List Container) : Prop :=
  if input.template.fetchScenarioParameters = some false then cs = []
  else ∃ first downloads rest, cs = first :: rest ∧ first.name = Step.fetchParametersName ∧
    Step.ParameterDownloads input.solution input.scenario.parametersValues downloads ∧
    List.Forall₂ (fun (entry : (String × String) × Nat) c => Step.Fetches input.run input.catalog
      (Step.fetchName true entry.2) (Environment.parametersPath ++ "/" ++ entry.1.1) entry.1.2 c)
      (downloads.zipIdx 1) rest

/-- The enabled ones of some steps. -/
def enabledSteps (input : Input) (steps : List SolutionStep) : List (Option SolutionStep) :=
  (steps.filter (·.isEnabled input.template)).map some

/-- What is run after the input has been fetched. -/
def laterSteps (input : Input) : List (Option SolutionStep) :=
  let content := Step.WarehouseContent.of input.run.workspace input.template
  input.enabledSteps [.applyParameters, .validate] ++
    (if content.parameters || content.datasets then [none] else []) ++
    input.enabledSteps [.preRun, .run, .postRun]

/-- The containers are those of the datasets, those of the parameters and those of the later steps,
each of them once and in this order. -/
def Inventory (input : Input) (containers : List Container) : Prop :=
  ∃ fetched parameters later, containers = fetched ++ parameters ++ later ∧
    input.DatasetFetches fetched ∧ input.ParameterFetches parameters ∧
    List.Forall₂ RunsStep input.laterSteps later

variable {input : Input} {dependencies : Option (List String)} {built first rest : List Container}
  {kind : StageKind} {step : SolutionStep}

theorem datasetFetches_of_contribution
    (h : (input.datasetFetch.contribution dependencies).outcome = .ok built) :
    input.DatasetFetches built := by
  have he : input.datasetFetch.enabled = true ↔ input.template.fetchDatasets ≠ some false :=
    isStepEnabled_iff
  rw [DatasetFetches]
  split
  · rename_i hoff
    exact (contribution_of_disabled fun hon => he.1 hon hoff).1 h
  · rename_i hon
    rw [contribution_of_enabled (he.2 hon)] at h
    have hf := Step.fetches_of_fetchNumbered h
    rw [List.zipIdx_map, List.forall₂_map_left_iff] at hf
    exact hf

theorem parameterFetches_of_contribution {frontier : Option (List String)}
    (h : (input.scenarioParameterFetch.contribution frontier).outcome = .ok first)
    (h' : (input.datasetParameterFetch.contribution dependencies).outcome = .ok rest) :
    input.ParameterFetches (first ++ rest) := by
  have he : isStepEnabled input.template.fetchScenarioParameters = true ↔
      input.template.fetchScenarioParameters ≠ some false := isStepEnabled_iff
  rw [ParameterFetches]
  split
  · rename_i hoff
    have hd : ¬ isStepEnabled input.template.fetchScenarioParameters = true :=
      fun hon => he.1 hon hoff
    rw [(contribution_of_disabled hd).1 h, (contribution_of_disabled hd).1 h', List.append_nil]
  · rename_i hon
    rw [contribution_of_enabled (he.2 hon)] at h h'
    obtain ⟨c, hc, rfl⟩ := map_eq_ok.1 h
    obtain ⟨hnone, hb⟩ := Step.fetchDatasetParameters_eq_ok h'
    have hf := Step.fetches_of_fetchNumbered hb
    rw [Step.namedDatasets, List.zipIdx_map, List.forall₂_map_left_iff] at hf
    exact ⟨c, _, rest, rfl, (Step.fetchParameters_eq_ok hc).1,
      Step.parameterDownloads_of_perParameter hnone, hf⟩

theorem runsStep_of_contribution
    (h : ((input.solutionStage kind step).contribution dependencies).outcome = .ok built) :
    List.Forall₂ RunsStep (input.enabledSteps [step]) built := by
  rw [enabledSteps, List.filter_singleton, Bool.cond_eq_ite]
  split
  · rename_i hon
    rw [contribution_of_enabled hon] at h
    obtain ⟨c, hc, rfl⟩ := input.solutionStage_eq_ok.1 h
    obtain ⟨hname, -, hs, hm⟩ := Step.runSolution_eq_ok hc
    exact .cons ⟨hname, hs, hm⟩ .nil
  · rename_i hoff
    rw [(contribution_of_disabled hoff).1 h]
    exact .nil

theorem runsStep_of_warehouse
    (h : (input.sendToWarehouse.contribution dependencies).outcome = .ok built) :
    List.Forall₂ RunsStep (if input.sendToWarehouse.enabled then [none] else []) built := by
  split
  · rename_i hon
    rw [contribution_of_enabled hon] at h
    obtain ⟨c, hc, rfl⟩ := map_eq_ok.1 h
    obtain ⟨hname, -, hs⟩ := Step.sendToWarehouse_eq_ok hc
    exact .cons ⟨hname, hs⟩ .nil
  · rename_i hoff
    rw [(contribution_of_disabled hoff).1 h]
    exact .nil

theorem enabledSteps_append (input : Input) (steps others : List SolutionStep) :
    input.enabledSteps (steps ++ others) =
      input.enabledSteps steps ++ input.enabledSteps others := by
  simp [enabledSteps]

theorem inventory_of_linked {linked : List Container} (h : Linked [] input.stages linked) :
    input.Inventory linked := by
  obtain ⟨layers, hl, rfl⟩ := linked_iff.1 h
  simp only [stages, linkByStage_cons_eq_ok, linkByStage_nil_eq_ok] at hl
  obtain ⟨fetched, _, rfl, hfetched, parameters, _, rfl, hparameters, named, _, rfl, hnamed,
    apply, _, rfl, happly, validate, _, rfl, hvalidate, warehouse, _, rfl, hwarehouse,
    preRun, _, rfl, hpreRun, run, _, rfl, hrun, postRun, _, rfl, hpostRun, rfl⟩ := hl
  have hlater : List.Forall₂ RunsStep input.laterSteps
      (apply ++ validate ++ warehouse ++ (preRun ++ (run ++ postRun))) := by
    have hbefore := List.rel_append (runsStep_of_contribution happly)
      (runsStep_of_contribution hvalidate)
    have hafter := List.rel_append (runsStep_of_contribution hpreRun)
      (List.rel_append (runsStep_of_contribution hrun) (runsStep_of_contribution hpostRun))
    simp only [← enabledSteps_append] at hbefore hafter
    exact List.rel_append (List.rel_append hbefore (runsStep_of_warehouse hwarehouse)) hafter
  refine ⟨fetched, parameters ++ named, _, by simp [flat],
    datasetFetches_of_contribution hfetched,
    parameterFetches_of_contribution hparameters hnamed, hlater⟩

end Input

variable {settings : PlatformSettings} {checker : EventHubChecker} {request : RunRequest}
  {csmSimulationId : String} {compiled : List Container}

/-- A run that is not stacked has one container for each instance of an enabled stage, in the order
of the stages, and no other container. -/
theorem containers_inventory
    (h : (containers settings checker request csmSimulationId).outcome = .ok compiled)
    (hoff : ∀ template, request.solution.template request.scenario.runTemplateId = .ok template →
      template.stackSteps ≠ some true) :
    ∃ template, request.solution.template request.scenario.runTemplateId = .ok template ∧
      (inputWith settings checker request csmSimulationId template).Inventory compiled := by
  obtain ⟨template, linked, ht, hl, rfl⟩ := containers_eq_ok.1 h
  rw [Input.arrange_eq_self (hoff template ht)]
  exact ⟨template, ht, Input.inventory_of_linked hl⟩

/-- A request with a dataset that is fetched twice, a parameter that names two datasets and one
that names a single dataset; of two datasets with one id the last one counts. -/
def mixedRequest : RunRequest :=
  { smallRequest none with
    solution := { (smallRequest none).solution with
      parameters := [⟨"several", some Placeholder.datasetIdToken, none⟩,
        ⟨"single", some Placeholder.datasetIdToken, none⟩] }
    scenario := { (smallRequest none).scenario with
      datasetList := ["d-1", "d-1"]
      parametersValues := [⟨"several", "[d-1, d-2]", none⟩, ⟨"single", "d-2", none⟩] }
    datasets := [⟨"d-1", none, none⟩, ⟨"d-2", none, some ⟨some "c-1", none, none, .empty⟩⟩,
      ⟨"d-1", none, some ⟨some "c-1", none, none, .empty⟩⟩]
    connectors := [⟨"c-1", none, none, "connector", none, none, none, []⟩] }

theorem mixedRequest_inventory : ∃ compiled,
    (containers smallPlatform none mixedRequest "id").outcome = .ok compiled ∧
    compiled.length = 12 ∧
    (inputWith smallPlatform none mixedRequest "id" (smallTemplate none)).Inventory compiled := by
  have ht : mixedRequest.solution.template "template" = .ok (smallTemplate none) := rfl
  have hoff : ∀ template, mixedRequest.solution.template "template" = .ok template →
      template.stackSteps ≠ some true := by
    intro template h
    rw [← Except.ok.inj (ht.symm.trans h)]
    decide
  have hl : (containers smallPlatform none mixedRequest "id").outcome.map (·.length) = .ok 12 := by
    decide +kernel
  obtain ⟨compiled, h, hlength⟩ := map_eq_ok.1 hl
  obtain ⟨template, ht', hi⟩ := containers_inventory h hoff
  obtain rfl := Except.ok.inj (ht.symm.trans ht')
  exact ⟨compiled, h, hlength, hi⟩

end Pipeline

end ScenarioCompiler
