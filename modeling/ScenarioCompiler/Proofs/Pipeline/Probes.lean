import ScenarioCompiler.Proofs.Pipeline.Compile

namespace ScenarioCompiler

namespace Traced

variable {ω ε α β : Type} {entries more : List ω} {x : Traced ω ε α} {f : α → Traced ω ε β}

theorem log_bind_of_ok {a : α} (h : x.outcome = .ok a) : (x >>= f).log = x.log ++ (f a).log := by
  rcases x with ⟨log, _ | b⟩
  · simp at h
  · obtain rfl := Except.ok.inj h
    rfl

theorem log_bind_of_error {e : ε} (h : x.outcome = .error e) : (x >>= f).log = x.log := by
  rcases x with ⟨log, _ | b⟩
  · rfl
  · simp at h

theorem liftM_error_bind (e : ε) :
    ((liftM (Except.error e : Except ε α) : Traced ω ε α) >>= f) = fail e := rfl

theorem liftM_ok_bind (a : α) : ((liftM (Except.ok a : Except ε α) : Traced ω ε α) >>= f) = f a :=
  rfl

/-- A computation that logs some entries if it succeeds, and nothing if it fails. -/
structure Commits (entries : List ω) (x : Traced ω ε α) : Prop where
  of_ok : ∀ {a}, x.outcome = .ok a → x.log = entries
  of_error : ∀ {e}, x.outcome = .error e → x.log = []

theorem Commits.pure (a : α) : Commits [] (Pure.pure a : Traced ω ε α) :=
  ⟨fun _ => rfl, fun _ => rfl⟩

theorem Commits.ofExcept (x : Except ε α) : Commits [] (ofExcept x : Traced ω ε α) :=
  ⟨fun _ => rfl, fun _ => rfl⟩

theorem Commits.fail (e : ε) : Commits entries (Traced.fail e : Traced ω ε α) :=
  ⟨fun h => by simp at h, fun _ => rfl⟩

/-- What comes after a computation must not fail if that computation may have logged something. -/
theorem Commits.bind (hx : Commits entries x)
    (hf : ∀ a, x.outcome = .ok a → Commits more (f a) ∧
      (entries ≠ [] → ∃ b, (f a).outcome = .ok b)) : Commits (entries ++ more) (x >>= f) := by
  cases hxo : x.outcome with
  | error e =>
    refine ⟨fun h => ?_, fun _ => (log_bind_of_error hxo).trans (hx.of_error hxo)⟩
    simp [outcome_bind, hxo, error_bind] at h
  | ok a =>
    obtain ⟨hfa, hsafe⟩ := hf a hxo
    have houtcome : (x >>= f).outcome = (f a).outcome := by rw [outcome_bind, hxo, ok_bind]
    have hlog : (x >>= f).log = entries ++ (f a).log := by rw [log_bind_of_ok hxo, hx.of_ok hxo]
    constructor
    · intro b hb
      rw [hlog, hfa.of_ok (houtcome ▸ hb)]
    · intro e he
      rw [houtcome] at he
      have hnil : entries = [] := by
        by_contra hne
        obtain ⟨b, hb⟩ := hsafe hne
        simp [hb] at he
      rw [hlog, hnil, hfa.of_error he, List.append_nil]

/-- A computation that logs nothing may come first. -/
theorem Commits.after (hx : Commits [] x) (hf : ∀ a, x.outcome = .ok a → Commits more (f a)) :
    Commits more (x >>= f) :=
  hx.bind fun a ha => ⟨hf a ha, fun h => absurd rfl h⟩

theorem Commits.map (hx : Commits entries x) (g : α → β) :
    Commits entries (x >>= fun a => Pure.pure (g a)) := by
  rw [← List.append_nil entries]
  exact hx.bind fun a _ => ⟨Commits.pure (g a), fun _ => ⟨g a, rfl⟩⟩

end Traced

namespace EventHub

variable {settings : PlatformSettings} {organization : Organization} {workspace : Workspace}

/-- The event hub behind the control plane of a workspace, where an event bus is configured. -/
def controlPlane (settings : PlatformSettings) (organization : Organization)
    (workspace : Workspace) : Option EventHub :=
  (settings.azure.bind (·.eventBus)).map fun bus => (topics bus organization workspace).hub

theorem commits_exists? (check : EventHub → Bool) (hub : EventHub) :
    (exists? (some check) hub).Commits [hub] :=
  ⟨fun _ => rfl, fun h => by cases h⟩

/-- The event hub is asked for last. -/
theorem commits_environment (check : EventHub → Bool) :
    (environment settings organization workspace (some check)).Commits
      (controlPlane settings organization workspace).toList := by
  unfold environment controlPlane
  cases settings.azure.bind (·.eventBus) with
  | none => exact .fail _
  | some bus => exact (Traced.Commits.ofExcept _).after fun _ _ => (commits_exists? check _).map _

end EventHub

namespace Step

variable {run : RunContext} {solution : Solution} {templateId : String} {step : SolutionStep}
  {dependencies : Option (List String)} {sizing : Option ResourceSizing}

theorem commits_runSolution (check : EventHub → Bool) :
    (runSolution run (some check) solution templateId step dependencies sizing).Commits
      (EventHub.controlPlane run.settings run.organization run.workspace).toList :=
  (Traced.Commits.ofExcept _).after fun _ _ => (Traced.Commits.ofExcept _).after fun _ _ =>
    (EventHub.commits_environment check).map _

end Step

namespace Stage

variable {stage : Stage Compile} {stages : List (Stage Compile)} {frontier : List String}

/-- Stages that log something only if they can be built, each followed by stages that can be built
as well, log what the enabled ones of them do, or nothing if one of them cannot be built. -/
theorem commits_link {entries : Stage Compile → List EventHub}
    (hc : ∀ stage ∈ stages, ∀ dependencies, (stage.build dependencies).Commits (entries stage))
    (hp : stages.Pairwise fun stage later => ∀ dependencies built, entries stage ≠ [] →
      (stage.build dependencies).outcome = .ok built →
        ∀ dependencies f, (later.build dependencies).outcome ≠ .error f) :
    (link frontier stages).Commits ((stages.filter (·.enabled)).flatMap entries) := by
  induction stages generalizing frontier with
  | nil => exact .pure []
  | cons stage rest ih =>
    obtain ⟨hstage, hrest⟩ := List.forall_mem_cons.1 hc
    obtain ⟨hsafe, hp⟩ := List.pairwise_cons.1 hp
    rw [link]
    split
    · rename_i hon
      rw [List.filter_cons_of_pos hon, List.flatMap_cons]
      refine (hstage _).bind fun built hb => ⟨(ih hrest hp).map _, fun hne => ?_⟩
      -- if the later stages failed, one of them could not be built
      have hlink : ∀ f, (link (stage.frontierAfter frontier built) rest).outcome ≠ .error f := by
        intro f hf
        obtain ⟨later, hm, -, dependencies, hl⟩ := link_eq_error hf
        exact hsafe later hm _ built hne hb dependencies f hl
      cases hl : (link (stage.frontierAfter frontier built) rest).outcome with
      | error f => exact absurd hl (hlink f)
      | ok later => exact ⟨built ++ later, by rw [Traced.outcome_bind, hl]; rfl⟩
    · rename_i hoff
      rw [List.filter_cons_of_neg hoff]
      exact ih hrest hp

end Stage

namespace Pipeline

open Stage

namespace Input

/-- The stages of a run in which the checker may answer each stage differently. -/
def answered (input : Input) (answers : StageKind → EventHub → Bool) : List (Stage Compile) :=
  StageKind.all.map fun kind => { input with checker := some (answers kind) : Input }.stageOf kind

variable {input : Input} {kind : StageKind} {answers : StageKind → EventHub → Bool}

theorem mem_answered {stage : Stage Compile} : stage ∈ input.answered answers ↔
    ∃ kind, { input with checker := some (answers kind) : Input }.stageOf kind = stage := by
  simp [answered, StageKind.mem_all]

/-- The event hubs that the stage of a kind asks for. -/
def probes (input : Input) (kind : StageKind) : List EventHub :=
  match kind.step? with
  | none => []
  | some _ =>
    (EventHub.controlPlane input.run.settings input.run.organization input.run.workspace).toList

theorem commits_stageOf (check : EventHub → Bool) (kind : StageKind)
    (dependencies : Option (List String)) :
    (({ input with checker := some check : Input }.stageOf kind).build dependencies).Commits
      (input.probes kind) := by
  cases kind with
  | datasetFetch | scenarioParameterFetch | datasetParameterFetch | sendToWarehouse =>
    exact .ofExcept _
  | applyParameters | validate | preRun | run | postRun =>
    exact (Step.commits_runSolution check).map _

theorem buildable_of_step {step : SolutionStep} (h : kind.step? = some step) :
    input.Buildable kind ↔ Environment.BaseAuthentication input.run.settings ∧
      EventHub.BusConfigured input.run.settings := by
  cases kind with
  | datasetFetch | scenarioParameterFetch | datasetParameterFetch | sendToWarehouse => cases h
  | applyParameters | validate | preRun | run | postRun => rfl

theorem exists_build_stageOf (input : Input)
    (ht : input.solution.template input.template.id = .ok input.template) (kind : StageKind)
    (dependencies : Option (List String)) :
    (∃ cs, ((input.stageOf kind).build dependencies).outcome = .ok cs) ↔ input.Buildable kind := by
  rw [exists_build_eq_ok ht _ (input.stageOf_mem kind), kind_stageOf]

/-- What the checker answers does not matter for whether a stage can be built. -/
theorem exists_build_answered (ht : input.solution.template input.template.id = .ok input.template)
    (check : EventHub → Bool) (kind : StageKind) (dependencies : Option (List String)) :
    (∃ cs, (({ input with checker := some check : Input }.stageOf kind).build
      dependencies).outcome = .ok cs) ↔ input.Buildable kind :=
  exists_build_stageOf { input with checker := some check } ht kind dependencies

/-- Whatever comes after a step of the solution needs no more than that step. -/
theorem buildable_after : StageKind.all.Pairwise fun first later =>
    first.step? ≠ none → ∀ input : Input, input.Buildable first → input.Buildable later := by
  have horder : StageKind.all.Pairwise fun first later =>
      first.step? ≠ none → later.step? ≠ none ∨ later = .sendToWarehouse := by decide
  refine horder.imp fun {first later} hl hs input hb => ?_
  obtain ⟨step, hstep⟩ := Option.ne_none_iff_exists'.1 hs
  rw [buildable_of_step hstep] at hb
  rcases hl hs with hl | rfl
  · obtain ⟨other, hother⟩ := Option.ne_none_iff_exists'.1 hl
    exact (buildable_of_step hother).2 hb
  · exact hb.1

/-- The event hubs that the enabled steps of the solution ask for. -/
theorem flatMap_probes (input : Input) (answers : StageKind → EventHub → Bool) :
    ((input.answered answers).filter (·.enabled)).flatMap (fun stage => input.probes stage.kind) =
      (SolutionStep.all.filter (·.isEnabled input.template)).flatMap fun _ =>
        (EventHub.controlPlane input.run.settings input.run.organization
          input.run.workspace).toList := by
  have hall : SolutionStep.all = StageKind.all.filterMap (·.step?) := rfl
  rw [hall, answered]
  induction StageKind.all with
  | nil => rfl
  | cons kind rest ih =>
    rw [List.map_cons, List.filter_cons, List.filterMap_cons]
    cases hs : kind.step? with
    | none =>
      have hnone : input.probes kind = [] := by rw [probes, hs]
      split
      · rw [List.flatMap_cons, kind_stageOf, hnone, ih, List.nil_append]
      · exact ih
    | some step =>
      have hsome : input.probes kind = (EventHub.controlPlane input.run.settings
          input.run.organization input.run.workspace).toList := by rw [probes, hs]
      rw [enabled_stageOf hs, List.filter_cons]
      split
      · rw [List.flatMap_cons, List.flatMap_cons, kind_stageOf, hsome, ih]
      · exact ih

theorem commits_answered (input : Input) (answers : StageKind → EventHub → Bool)
    (ht : input.solution.template input.template.id = .ok input.template) :
    (linkAll (input.answered answers)).Commits
      ((SolutionStep.all.filter (·.isEnabled input.template)).flatMap fun _ =>
        (EventHub.controlPlane input.run.settings input.run.organization
          input.run.workspace).toList) := by
  rw [← flatMap_probes input answers]
  refine commits_link (fun stage hm dependencies => ?_) ?_
  · obtain ⟨kind, rfl⟩ := mem_answered.1 hm
    rw [kind_stageOf]
    exact commits_stageOf (answers kind) kind dependencies
  · rw [answered, List.pairwise_map]
    refine buildable_after.imp fun {first later} hl dependencies built hne hb others f hf => ?_
    rw [kind_stageOf] at hne
    have hs : first.step? ≠ none := fun hn => hne (by rw [probes, hn])
    have hfirst := (exists_build_answered ht (answers first) first dependencies).1 ⟨built, hb⟩
    obtain ⟨cs, hcs⟩ :=
      (exists_build_answered ht (answers later) later others).2 (hl hs input hfirst)
    simp [hcs] at hf

theorem answered_sound : ∀ stage ∈ input.answered answers, stage.Sound := by
  intro stage hm
  obtain ⟨kind, rfl⟩ := mem_answered.1 hm
  exact stages_sound _ _ (stageOf_mem _ kind)

theorem answered_kinds_nodup : ((input.answered answers).map (·.kind)).Nodup := by
  have hk : (input.answered answers).map (·.kind) = StageKind.all := rfl
  rw [hk]
  decide

theorem wellOrdered_answered {linked : List Container}
    (h : (linkAll (input.answered answers)).outcome = .ok linked) :
    DependencyGraph.WellOrdered (input.arrange linked) := by
  have hl := link_eq_ok.1 h
  have hw := hl.wellOrdered answered_sound answered_kinds_nodup
  exact wellOrdered_arrange_of_unreserved hw (hl.unreserved answered_sound)

/-- A step of the solution is built only where its event hub is known. -/
theorem exists_controlPlane (ht : input.solution.template input.template.id = .ok input.template)
    {linked : List Container} (h : (linkAll (input.answered answers)).outcome = .ok linked)
    {step : SolutionStep} (hs : step.isEnabled input.template = true) :
    ∃ hub, EventHub.controlPlane input.run.settings input.run.organization
      input.run.workspace = some hub := by
  have hbuild : ∀ stage ∈ input.answered answers, ∀ dependencies,
      (∃ cs, (stage.build dependencies).outcome = .ok cs) ↔ input.Buildable stage.kind := by
    intro stage hm dependencies
    obtain ⟨kind, rfl⟩ := mem_answered.1 hm
    rw [kind_stageOf]
    exact exists_build_answered ht (answers kind) kind dependencies
  obtain ⟨kind, hkind⟩ : ∃ kind : StageKind, kind.step? = some step := by
    have hm : step ∈ StageKind.all.filterMap (·.step?) := by cases step <;> decide
    obtain ⟨kind, -, hkind⟩ := List.mem_filterMap.1 hm
    exact ⟨kind, hkind⟩
  have hb := (exists_link_eq_ok hbuild).1 ⟨linked, h⟩ _ (mem_answered.2 ⟨kind, rfl⟩)
    ((enabled_stageOf hkind).trans hs)
  rw [kind_stageOf, buildable_of_step hkind] at hb
  obtain ⟨-, azure, bus, ha, hbus, -⟩ := hb
  exact ⟨_, by rw [EventHub.controlPlane, ha, Option.bind_some, hbus, Option.map_some]⟩

end Input

variable {settings : PlatformSettings} {answers : StageKind → EventHub → Bool}
  {request : RunRequest} {csmSimulationId : String}

/-- A compilation whose checker answers each stage on its own, as one does whose answer may change
from one question to the next. -/
def containersAnswered (settings : PlatformSettings) (answers : StageKind → EventHub → Bool)
    (request : RunRequest) (csmSimulationId : String) : Compile (List Container) := do
  let input ← (input settings none request csmSimulationId : Except Failure Input)
  let linked ← linkAll (input.answered answers)
  let result := input.arrange linked
  let _ ← (DependencyGraph.of result : Except Failure DependencyGraph)
  pure result

theorem input_eq_ok_of_template {checker : EventHubChecker} {template : RunTemplate}
    (ht : request.solution.template request.scenario.runTemplateId = .ok template) :
    input settings checker request csmSimulationId =
      .ok (inputWith settings checker request csmSimulationId template) :=
  input_eq_ok.2 ⟨template, ht, rfl⟩

theorem containersAnswered_const (check : EventHub → Bool) :
    containersAnswered settings (fun _ => check) request csmSimulationId =
      containers settings (some check) request csmSimulationId := by
  cases ht : request.solution.template request.scenario.runTemplateId with
  | error f =>
    have hi : ∀ checker, input settings checker request csmSimulationId = .error f := by
      intro checker
      rw [input, ht, error_bind]
    rw [containersAnswered, containers, hi, hi, Traced.liftM_error_bind, Traced.liftM_error_bind]
  | ok template =>
    have harrange : (inputWith settings none request csmSimulationId template).arrange =
        (inputWith settings (some check) request csmSimulationId template).arrange := rfl
    have hstages : (inputWith settings none request csmSimulationId template).answered
        (fun _ => check) =
          (inputWith settings (some check) request csmSimulationId template).stages := rfl
    rw [containersAnswered, containers, input_eq_ok_of_template ht, input_eq_ok_of_template ht,
      Traced.liftM_ok_bind, Traced.liftM_ok_bind, hstages, harrange]

/-- Nothing can fail once an event hub has been asked for: what is linked can be arranged. -/
theorem commits_containersAnswered (settings : PlatformSettings)
    (answers : StageKind → EventHub → Bool) (csmSimulationId : String) {template : RunTemplate}
    (ht : request.solution.template request.scenario.runTemplateId = .ok template) :
    (containersAnswered settings answers request csmSimulationId).Commits
      ((SolutionStep.all.filter (·.isEnabled template)).flatMap fun _ =>
        (EventHub.controlPlane settings request.organization request.workspace).toList) := by
  have hlink := Input.commits_answered (inputWith settings none request csmSimulationId template)
    answers (template_of_template_eq_ok ht)
  rw [containersAnswered, input_eq_ok_of_template ht, Traced.liftM_ok_bind,
    ← List.append_nil (List.flatMap _ _)]
  refine hlink.bind fun linked hl => ⟨?_, ?_⟩
  · exact (Traced.Commits.ofExcept _).after fun _ _ => .pure _
  · obtain ⟨graph, hg⟩ := DependencyGraph.exists_of_eq_ok.2 (Input.wellOrdered_answered hl)
    refine fun _ => ⟨(inputWith settings none request csmSimulationId template).arrange linked, ?_⟩
    dsimp only
    rw [hg, Traced.liftM_ok_bind, Traced.outcome_pure]

theorem exists_linked_of_containersAnswered {template : RunTemplate} {compiled : List Container}
    (ht : request.solution.template request.scenario.runTemplateId = .ok template)
    (h : (containersAnswered settings answers request csmSimulationId).outcome = .ok compiled) :
    ∃ linked, (linkAll ((inputWith settings none request csmSimulationId template).answered
      answers)).outcome = .ok linked := by
  rw [containersAnswered, input_eq_ok_of_template ht, Traced.liftM_ok_bind, Traced.outcome_bind,
    bind_eq_ok] at h
  obtain ⟨linked, hl, -⟩ := h
  exact ⟨linked, hl⟩

/-- An aborted compilation has asked for no event hub. One that succeeds has asked once for each
enabled step of the solution, always for the event hub behind the control plane of the workspace. -/
theorem probes_only_on_success (settings : PlatformSettings)
    (answers : StageKind → EventHub → Bool) (request : RunRequest) (csmSimulationId : String) :
    (∀ check, containersAnswered settings (fun _ => check) request csmSimulationId =
      containers settings (some check) request csmSimulationId) ∧
    (∀ f, (containersAnswered settings answers request csmSimulationId).outcome = .error f →
      (containersAnswered settings answers request csmSimulationId).log = []) ∧
    ∀ compiled, (containersAnswered settings answers request csmSimulationId).outcome =
        .ok compiled →
      ∃ template hub, request.solution.template request.scenario.runTemplateId = .ok template ∧
        (containersAnswered settings answers request csmSimulationId).log =
          List.replicate (SolutionStep.all.countP (·.isEnabled template)) hub ∧
        ∀ bus, settings.azure.bind (·.eventBus) = some bus →
          hub = (EventHub.topics bus request.organization request.workspace).hub := by
  refine ⟨containersAnswered_const, ?_⟩
  cases ht : request.solution.template request.scenario.runTemplateId with
  | error f =>
    have hi : input settings none request csmSimulationId = .error f := by
      rw [input, ht, error_bind]
    rw [containersAnswered, hi, Traced.liftM_error_bind]
    exact ⟨fun _ _ => rfl, fun _ h => by simp at h⟩
  | ok template =>
    have hc := commits_containersAnswered settings answers csmSimulationId ht
    refine ⟨fun f hf => hc.of_error hf, fun compiled h => ?_⟩
    rw [hc.of_ok h]
    obtain ⟨linked, hl⟩ := exists_linked_of_containersAnswered ht h
    have hstep : ∀ step ∈ SolutionStep.all.filter (·.isEnabled template),
        ∃ hub, EventHub.controlPlane settings request.organization request.workspace = some hub :=
      fun _ hm =>
        Input.exists_controlPlane (template_of_template_eq_ok ht) hl (List.mem_filter.1 hm).2
    refine ⟨template, (EventHub.controlPlane settings request.organization
      request.workspace).getD ⟨"", ""⟩, rfl, ?_, fun bus hbus => ?_⟩
    · rw [List.countP_eq_length_filter]
      cases hsteps : SolutionStep.all.filter (·.isEnabled template) with
      | nil => rfl
      | cons step rest =>
        obtain ⟨hub, hhub⟩ := hstep step (hsteps ▸ List.mem_cons_self)
        rw [hhub, Option.toList_some, Option.getD_some, ← List.map_const', List.map_eq_flatMap]
    · rw [EventHub.controlPlane, hbus, Option.map_some, Option.getD_some]

/-- Five questions with two different answers, and none for a platform without an event bus. -/
theorem smallRun_probes :
    let answers := fun (kind : StageKind) (_ : EventHub) => kind == .validate
    let request := smallRequest (some true)
    (∃ compiled, (containersAnswered smallPlatform answers request "id").outcome = .ok compiled ∧
      compiled.length = 4) ∧
    (containersAnswered smallPlatform answers request "id").log =
      List.replicate 5 ⟨"bus", "o-key-scenariorun"⟩ ∧
    (containersAnswered { smallPlatform with azure := none } answers request "id").log = [] := by
  intro answers request
  have hlength : (containersAnswered smallPlatform answers request "id").outcome.map (·.length) =
      .ok 4 := by decide +kernel
  have herror : (containersAnswered { smallPlatform with azure := none } answers request
      "id").outcome = .error _ := rfl
  obtain ⟨compiled, h, hfour⟩ := map_eq_ok.1 hlength
  obtain ⟨template, hub, ht, hlog, hbus⟩ :=
    (probes_only_on_success smallPlatform answers request "id").2.2 compiled h
  obtain rfl : smallTemplate (some true) = template := Except.ok.inj ht
  have hhub : hub = ⟨"bus", "o-key-scenariorun"⟩ := (hbus _ rfl).trans (by decide +kernel)
  refine ⟨⟨compiled, h, hfour⟩, ?_, ?_⟩
  · rw [hlog, hhub]
    rfl
  · exact (probes_only_on_success _ answers request "id").2.1 _ herror

end Pipeline

end ScenarioCompiler
