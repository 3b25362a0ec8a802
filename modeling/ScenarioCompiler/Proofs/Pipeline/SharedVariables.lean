import ScenarioCompiler.Proofs.Pipeline.FetchedWith
import ScenarioCompiler.Proofs.Step.SharedVariables

namespace ScenarioCompiler.Pipeline

open Stage

/-- What the shared variables of a request are made of under the given id. -/
def runIds (request : RunRequest) (csmSimulationId : String) : RunIds where
  csmSimulationId
  organizationId := request.organization.id
  workspaceId := request.workspace.id
  workspaceKey := request.workspace.key
  scenarioId := request.scenario.id

/-- The environment of a container begins with the variables that the run shares: those for the
flags of its connector if it fetches a dataset, unless the connector binds one of them. -/
inductive CarriesShared (settings : PlatformSettings) (request : RunRequest)
    (csmSimulationId : String) (c : Container) : Prop
  | fetching {connector : Connector} {shared : Bindings}
      (plain : c.solutionContainer = false) (fetched : FetchedWith request c.name connector)
      (common : Environment.common settings (runIds request csmSimulationId)
        (Step.identityFlags connector) = .ok shared)
      (begins : ¬ connector.Rebinds shared → c.BeginsWith shared) :
      CarriesShared settings request csmSimulationId c
  | other {shared : Bindings} (unfetched : ∀ connector, ¬ FetchedWith request c.name connector)
      (common : Environment.common settings (runIds request csmSimulationId) {} = .ok shared)
      (begins : c.BeginsWith shared) : CarriesShared settings request csmSimulationId c

variable {settings : PlatformSettings} {checker : EventHubChecker} {request : RunRequest}
  {csmSimulationId freshId : String} {template : RunTemplate} {linked : List Container}
  {s : RunStart}

theorem carriesShared_of_fetchNumbered {forParameter : Bool} {given : Option (List String)}
    {items : List (Option String × String)} {built : List Container}
    (hitems : ∀ entry ∈ items.zipIdx 1, ∀ dataset connector,
      (catalogOf request).Supplies entry.1.2 dataset connector →
        FetchedWith request (Step.fetchName forParameter entry.2) connector)
    (h : Step.fetchNumbered (inputWith settings checker request csmSimulationId template).run
      (catalogOf request) forParameter given 1 items = .ok built) :
    ∀ c ∈ built, CarriesShared settings request csmSimulationId c := by
  intro c hc
  obtain ⟨dataset, connector, target, hfetched, hf⟩ := exists_fetchDataset_of_mem hitems h hc
  obtain ⟨shared, hs, hbegins⟩ := Step.beginsWith_of_fetchDataset hf
  exact .fetching (Step.fetchDataset_eq_ok hf).2.2 hfetched hs hbegins

/-- What any stage of a run builds carries the shared variables. -/
theorem carriesShared_of_build {stage : Stage Compile} {dependencies : Option (List String)}
    {built : List Container}
    (hm : stage ∈ (inputWith settings checker request csmSimulationId template).stages)
    (h : (stage.build dependencies).outcome = .ok built) :
    ∀ c ∈ built, CarriesShared settings request csmSimulationId c := by
  obtain ⟨kind, -, rfl⟩ := List.mem_map.1 (Input.stages_eq _ ▸ hm)
  cases hk : kind.step? with
  | some step =>
    rw [Input.stageOf_eq_solutionStage hk] at h
    obtain ⟨c, hc, rfl⟩ := (Input.solutionStage_eq_ok _).1 h
    obtain ⟨shared, hs, hbegins⟩ := Step.beginsWith_of_runSolution hc
    obtain ⟨hname, -⟩ := Step.runSolution_eq_ok hc
    exact List.forall_mem_singleton.2
      (.other (fun _ => hname ▸ FetchedWith.not_step step) hs hbegins)
  | none =>
    cases kind with
    | datasetFetch => exact carriesShared_of_fetchNumbered fetchedWith_of_datasetList h
    | datasetParameterFetch =>
      obtain ⟨hnone, hn⟩ := Step.fetchDatasetParameters_eq_ok h
      exact carriesShared_of_fetchNumbered (fetchedWith_of_namedDatasets hnone) hn
    | scenarioParameterFetch =>
      obtain ⟨c, hc, rfl⟩ := map_eq_ok.1 h
      obtain ⟨shared, hs, hbegins⟩ := Step.beginsWith_of_fetchParameters hc
      obtain ⟨hname, -⟩ := Step.fetchParameters_eq_ok hc
      exact List.forall_mem_singleton.2
        (.other (fun _ => hname ▸ FetchedWith.not_fetchParametersName) hs hbegins)
    | sendToWarehouse =>
      obtain ⟨c, hc, rfl⟩ := map_eq_ok.1 h
      obtain ⟨shared, hs, hbegins⟩ := Step.beginsWith_of_sendToWarehouse hc
      obtain ⟨hname, -⟩ := Step.sendToWarehouse_eq_ok hc
      exact List.forall_mem_singleton.2
        (.other (fun _ => hname ▸ FetchedWith.not_warehouseName) hs hbegins)
    | _ => cases hk

/-- A container that waits for other names carries the same variables. -/
theorem CarriesShared.waiting {c : Container} (dependencies : Option (List String))
    (h : CarriesShared settings request csmSimulationId c) :
    CarriesShared settings request csmSimulationId { c with dependencies } := by
  cases h with
  | fetching plain fetched common begins => exact .fetching plain fetched common begins
  | other unfetched common begins => exact .other unfetched common begins

theorem CarriesShared.merged {c : Container}
    (h : CarriesShared settings request csmSimulationId c) (hs : c.solutionContainer = true)
    (number : Nat) (group : List Container) :
    CarriesShared settings request csmSimulationId (Stack.merged number c group) := by
  cases h with
  | fetching plain => simp [hs] at plain
  | other _ common begins =>
    refine .other (fun _ => FetchedWith.not_mergedName number) common
      (Stack.beginsWith_merged begins (fun hn => ?_) number group)
    exact absurd (Environment.names_common common hn) (by decide)

/-- Stacking keeps the shared variables where they are. -/
theorem carriesShared_stack
    (h : ∀ c ∈ linked, CarriesShared settings request csmSimulationId c) :
    ∀ c ∈ Stack.stack linked, CarriesShared settings request csmSimulationId c := by
  intro c hc
  obtain ⟨number, first, rest, hp, rfl⟩ := Stack.mem_stack.1 hc
  have hfirst := h first (Stack.mem_of_block hp List.mem_cons_self)
  obtain ⟨dependencies, he⟩ :=
    Stack.exists_redirect_eq (Stack.newNames linked) (Stack.standIn number first rest)
  rw [he]
  refine CarriesShared.waiting dependencies ?_
  unfold Stack.standIn
  split
  · exact hfirst
  · rename_i hr
    have hl : 1 < (first :: rest).length := by simpa using List.length_pos_iff.2 hr
    exact hfirst.merged (Stack.solution_of_block hp hl List.mem_cons_self) number _

theorem carriesShared_arrange
    (h : Linked [] (inputWith settings checker request csmSimulationId template).stages linked) :
    ∀ c ∈ (inputWith settings checker request csmSimulationId template).arrange linked,
      CarriesShared settings request csmSimulationId c := by
  have hlinked : ∀ c ∈ linked, CarriesShared settings request csmSimulationId c := by
    intro c hc
    obtain ⟨stage, hm, _, built, hb, hc⟩ := h.exists_stage hc
    exact carriesShared_of_build hm hb c hc
  unfold Input.arrange
  split
  · exact carriesShared_stack hlinked
  · exact hlinked

/-- The environment of every container of a run begins with the variables that the run shares, in
their order and with their values: those for the flags of its connector if the container fetches a
dataset and its connector binds none of them, and those for no flags if it does something else. The
id among them is the one of the run, which is fresh where none is given. -/
theorem shared_variables_first (h : (start settings checker request freshId).outcome = .ok s) :
    (∀ id, request.csmSimulationId = some id → id ≠ "" → s.csmSimulationId = id) ∧
    (request.csmSimulationId = none ∨ request.csmSimulationId = some "" →
      s.csmSimulationId = freshId) ∧
    ∀ c ∈ s.containers, ∃ flags shared,
      Environment.common settings (runIds request s.csmSimulationId) flags = .ok shared ∧
      (∀ connector, FetchedWith request c.name connector → flags = Step.identityFlags connector) ∧
      ((∀ connector, ¬ FetchedWith request c.name connector) → flags = {}) ∧
      ((∀ connector, FetchedWith request c.name connector → ¬ connector.Rebinds shared) →
        c.BeginsWith shared ∧ c.envValue? "CSM_SIMULATION_ID" = some s.csmSimulationId) := by
  obtain ⟨_, compiled, -, hc, rfl⟩ := start_eq_ok.1 h
  refine ⟨fun id hid hne => ?_, fun hnone => ?_, fun c hm => ?_⟩
  · simp [simulationId, hid, hne]
  · rcases hnone with hid | hid <;> simp [simulationId, hid]
  · obtain ⟨template, linked, -, hl, rfl⟩ := containers_eq_ok.1 hc
    cases carriesShared_arrange hl c hm with
    | @fetching connector shared _ fetched common begins =>
      refine ⟨_, shared, common, fun used hu => by rw [hu.unique fetched],
        fun hn => absurd fetched (hn connector), fun hr => ?_⟩
      have hbegins := begins (hr connector fetched)
      exact ⟨hbegins, hbegins.envValue? (Environment.simulationId_of_common common)⟩
    | @other shared unfetched common begins =>
      exact ⟨{}, shared, common, fun used hu => absurd hu (unfetched used), fun _ => rfl, fun _ =>
        ⟨begins, begins.envValue? (Environment.simulationId_of_common common)⟩⟩

/-- A stacked request without an id of its own, whose connector says where to download to. -/
def boundRequest : RunRequest :=
  { smallRequest (some true) with
    scenario := { (smallRequest (some true)).scenario with datasetList := ["d-1"] }
    datasets := [⟨"d-1", none, some ⟨some "c-1", none, none, .empty⟩⟩]
    connectors := [⟨"c-1", none, none, "connector", none, none, none,
      [⟨"group", none, [⟨"path", none, none, some "/mnt", some fetchPathVariable⟩]⟩]⟩]
    csmSimulationId := some "" }

theorem boundRequest_shared_first : ∃ s,
    (start smallPlatform none boundRequest "fresh").outcome = .ok s ∧ s.csmSimulationId = "fresh" ∧
    s.containers.map (·.envValue? fetchPathVariable) =
      [some "/mnt", some "/mnt/scenariorun-parameters", none, none, none] ∧
    ∀ c ∈ s.containers, c.envValue? "CSM_SIMULATION_ID" = some "fresh" := by
  have hp : (start smallPlatform none boundRequest "fresh").outcome.map
      (·.containers.map (·.envValue? fetchPathVariable)) = .ok [some "/mnt",
        some "/mnt/scenariorun-parameters", none, none, none] := by
    decide +kernel
  obtain ⟨s, h, hpaths⟩ := map_eq_ok.1 hp
  obtain ⟨-, hfresh, hall⟩ := shared_variables_first h
  have hid : s.csmSimulationId = "fresh" := hfresh (.inr rfl)
  refine ⟨s, h, hid, hpaths, fun c hc => ?_⟩
  obtain ⟨flags, shared, hs, -, -, hbegins⟩ := hall c hc
  rw [← hid]
  refine (hbegins fun connector hf => ?_).2
  -- the only connector binds the path, which is not one of the shared variables
  have hm := hf.mem_connectors
  rintro ⟨p, hparameter, name, hn, he⟩
  rw [boundRequest, List.mem_singleton] at hm
  subst hm
  obtain rfl := List.mem_singleton.1 hparameter
  obtain rfl := Option.some.inj he
  exact absurd (Environment.names_common hs hn) (by decide)

end ScenarioCompiler.Pipeline
