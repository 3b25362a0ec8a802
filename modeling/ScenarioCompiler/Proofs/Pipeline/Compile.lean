import ScenarioCompiler.Proofs.Pipeline.Stages

namespace ScenarioCompiler.Pipeline

open DependencyGraph Stage

namespace Input

variable {input : Input} {linked : List Container}

theorem arrange_eq_self (h : input.template.stackSteps ≠ some true) :
    input.arrange linked = linked := by
  rw [arrange, if_neg (by simpa using h)]

theorem arrange_eq_stack (h : input.template.stackSteps = some true) :
    input.arrange linked = Stack.stack linked := by
  rw [arrange, if_pos (by simpa using h)]

theorem linkAll_eq_ok :
    (linkAll input.stages).outcome = .ok linked ↔ Linked [] input.stages linked :=
  link_eq_ok

theorem wellOrdered_linked (h : Linked [] input.stages linked) : WellOrdered linked :=
  h.wellOrdered input.stages_sound input.kinds_nodup

theorem wellOrdered_arrange_of_unreserved (hw : WellOrdered linked)
    (hu : Stack.Unreserved linked) : WellOrdered (input.arrange linked) := by
  unfold arrange
  split
  · exact Stack.wellOrdered_stack hw hu
  · exact hw

/-- The containers of a run are well ordered, stacked or not. -/
theorem wellOrdered_arrange (h : Linked [] input.stages linked) :
    WellOrdered (input.arrange linked) :=
  wellOrdered_arrange_of_unreserved (wellOrdered_linked h) (h.unreserved input.stages_sound)

end Input

variable {settings : PlatformSettings} {checker : EventHubChecker} {request : RunRequest}
  {csmSimulationId freshId : String} {compiled : List Container} {found : Input} {s : RunStart}
  {f : Failure}

/-- What the builders work on when a request uses the given run template. -/
def inputWith (settings : PlatformSettings) (checker : EventHubChecker) (request : RunRequest)
    (csmSimulationId : String) (template : RunTemplate) : Input where
  run := {
    settings
    organization := request.organization
    workspace := request.workspace
    scenarioId := request.scenario.id
    csmSimulationId }
  checker
  scenario := request.scenario
  solution := request.solution
  template
  catalog := ⟨request.datasets, request.connectors⟩

theorem template_eq_ok {solution : Solution} {id : String} {template : RunTemplate} :
    solution.template id = .ok template ↔
      solution.runTemplates.find? (·.id == id) = some template := by
  unfold Solution.template
  cases solution.runTemplates.find? (·.id == id) <;> simp

/-- The run template of an input is the one that the steps of the solution find. -/
theorem template_of_template_eq_ok {solution : Solution} {id : String} {template : RunTemplate}
    (h : solution.template id = .ok template) : solution.template template.id = .ok template := by
  have hid : template.id = id := by simpa using List.find?_some (template_eq_ok.1 h)
  rw [hid, h]

theorem ofInputs_of_template_eq_error {solution : Solution} {id : String}
    (h : solution.template id = .error f) : f.OfInputs := by
  obtain ⟨_, rfl⟩ := Step.template_eq_error h
  trivial

theorem input_eq_ok : input settings checker request csmSimulationId = .ok found ↔
    ∃ template, request.solution.template request.scenario.runTemplateId = .ok template ∧
      found = inputWith settings checker request csmSimulationId template := by
  simp only [input, bind_eq_ok, pure_eq_ok]
  exact exists_congr fun _ => and_congr_right fun _ => eq_comm

/-- The graph of a compiled run is never refused. -/
theorem containers_eq_ok :
    (containers settings checker request csmSimulationId).outcome = .ok compiled ↔
      ∃ template linked,
        request.solution.template request.scenario.runTemplateId = .ok template ∧
        Linked [] (inputWith settings checker request csmSimulationId template).stages linked ∧
        (inputWith settings checker request csmSimulationId template).arrange linked =
          compiled := by
  simp only [containers, Traced.outcome_bind, Traced.outcome_liftM, Traced.outcome_pure,
    bind_eq_ok, Except.ok.injEq, input_eq_ok, Input.linkAll_eq_ok]
  constructor
  · rintro ⟨_, ⟨template, ht, rfl⟩, linked, hl, _, -, rfl⟩
    exact ⟨template, linked, ht, hl, rfl⟩
  · rintro ⟨template, linked, ht, hl, rfl⟩
    obtain ⟨graph, hg⟩ := exists_of_eq_ok.2 (Input.wellOrdered_arrange hl)
    exact ⟨_, ⟨template, ht, rfl⟩, linked, hl, graph, hg, rfl⟩

/-- A run that cannot be compiled has no run template, or a stage of it cannot be built. -/
theorem containers_eq_error
    (h : (containers settings checker request csmSimulationId).outcome = .error f) :
    (∃ templateId solutionId, f = .unknownRunTemplate templateId solutionId) ∨
      ∃ template, request.solution.template request.scenario.runTemplateId = .ok template ∧
        ∃ stage ∈ (inputWith settings checker request csmSimulationId template).stages,
          stage.enabled = true ∧ Input.BuildFailure
            (inputWith settings checker request csmSimulationId template) stage.kind f := by
  simp only [containers, Traced.outcome_bind, Traced.outcome_liftM, Traced.outcome_pure,
    bind_eq_error, reduceCtorEq, and_false, exists_false, or_false] at h
  rcases h with h | ⟨_, hi, h⟩
  · simp only [input, bind_eq_error, pure_ne_error, and_false, exists_false, or_false] at h
    obtain ⟨solutionId, rfl⟩ := Step.template_eq_error h
    exact .inl ⟨_, _, rfl⟩
  · obtain ⟨template, ht, rfl⟩ := input_eq_ok.1 hi
    have ht' := template_of_template_eq_ok ht
    rcases h with h | ⟨linked, hl, h⟩
    · obtain ⟨stage, hm, he, dependencies, hf⟩ := link_eq_error h
      exact .inr ⟨template, ht, stage, hm, he, Input.build_eq_error ht' stage hm dependencies hf⟩
    · exact absurd h ((Input.wellOrdered_arrange (Input.linkAll_eq_ok.1 hl)).of_ne_error f)

theorem ofInputs_of_containers_eq_error
    (h : (containers settings checker request csmSimulationId).outcome = .error f) :
    f.OfInputs := by
  rcases containers_eq_error h with ⟨_, _, rfl⟩ | ⟨_, _, _, _, _, hf⟩
  · trivial
  · exact hf.ofInputs

theorem start_eq_ok : (start settings checker request freshId).outcome = .ok s ↔
    ∃ template compiled,
      request.solution.template request.scenario.runTemplateId = .ok template ∧
      (containers settings checker request (simulationId request freshId)).outcome =
        .ok compiled ∧
      s = {
        containers := compiled
        nodeLabel := nodeLabel template.computeSize
        generateName := kubernetesName ("workflow-" ++ request.scenario.id ++ "-") maxNameLength
        csmSimulationId := simulationId request freshId
        labels := request.labels } := by
  simp only [start, Traced.outcome_bind, Traced.outcome_liftM, Traced.outcome_pure, bind_eq_ok,
    Except.ok.injEq]
  constructor
  · rintro ⟨template, ht, compiled, hc, rfl⟩
    exact ⟨template, compiled, ht, hc, rfl⟩
  · rintro ⟨template, compiled, ht, hc, rfl⟩
    exact ⟨template, ht, compiled, hc, rfl⟩

theorem ofInputs_of_start_eq_error
    (h : (start settings checker request freshId).outcome = .error f) : f.OfInputs := by
  simp only [start, Traced.outcome_bind, Traced.outcome_liftM, Traced.outcome_pure, bind_eq_error,
    reduceCtorEq, and_false, exists_false, or_false] at h
  rcases h with ht | ⟨_, -, hc⟩
  · exact ofInputs_of_template_eq_error ht
  · exact ofInputs_of_containers_eq_error hc

/-! ### A small run -/

/-- A platform with an event bus and the credentials of the core. -/
def smallPlatform : PlatformSettings where
  summary := none
  description := none
  version := none
  api := ⟨none, "https://api", none⟩
  identityProvider := none
  okta := none
  azure := some {
    credentials := ⟨⟨"tenant", "client", "secret", none⟩, none⟩
    storage := {}
    containerRegistries := {}
    eventBus := some ⟨"amqps://bus", {}⟩
    dataWarehouseCluster := none
    appIdUri := "https://app" }
  twincache := none
  images := ⟨"fetch-parameters", "send-data"⟩
  argo := {}

/-- A run template whose steps are all enabled. -/
def smallTemplate (stackSteps : Option Bool) : RunTemplate where
  id := "template"
  name := none
  csmSimulation := none
  computeSize := none
  resourceSizing := none
  parametersJson := none
  fetchDatasets := none
  fetchScenarioParameters := none
  applyParameters := none
  validateData := none
  sendDatasetsToDataWarehouse := none
  sendInputParametersToDataWarehouse := none
  preRun := none
  run := none
  postRun := none
  stackSteps
  parametersHandlerSource := none
  datasetValidatorSource := none
  preRunSource := none
  runSource := none
  postRunSource := none
  gitRepositoryUrl := none
  gitBranchName := none
  runTemplateSourceDir := none
  parameterGroups := none
  executionTimeout := none

/-- A scenario without datasets that uses the run template. -/
def smallRequest (stackSteps : Option Bool) : RunRequest where
  organization := ⟨"o", none⟩
  workspace := ⟨"w", "key", none, none, none⟩
  solution := ⟨"s", none, none, "image", none, none, [smallTemplate stackSteps], [], []⟩
  scenario := ⟨"scenario", none, "template", [], [], none⟩
  datasets := []
  connectors := []
  csmSimulationId := none
  labels := none

end ScenarioCompiler.Pipeline
