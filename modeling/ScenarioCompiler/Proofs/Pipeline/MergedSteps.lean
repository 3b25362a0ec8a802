import ScenarioCompiler.Proofs.Pipeline.ExecutionOrder

namespace ScenarioCompiler

open Stage

namespace Stack

variable {containers : List Container} {s : Container} {number : Nat} {first : Container}
  {rest : List Container}

/-- The solution containers of a list whose modes a container of the stacked list runs. -/
def members (containers : List Container) (s : Container) : List Container :=
  containers.filter fun c => c.solutionContainer && s.modes.contains (c.mode.getD "")

theorem filter_eq_infix {before group after : List Container} {p : Container → Bool}
    (hn : (before ++ group ++ after).Nodup)
    (hp : ∀ c ∈ before ++ group ++ after, p c = true ↔ c ∈ group) :
    (before ++ group ++ after).filter p = group := by
  have outside {others : List Container} (hsub : others ⊆ before ++ group ++ after)
      (hd : List.Disjoint others group) : others.filter p = [] :=
    List.filter_eq_nil_iff.2 fun c hc hpc => hd hc ((hp c (hsub hc)).1 hpc)
  obtain ⟨hbg, -, hda⟩ := List.nodup_append'.1 hn
  obtain ⟨-, -, hdb⟩ := List.nodup_append'.1 hbg
  have hgroup : group.filter p = group :=
    List.filter_eq_self.2 fun c hc => (hp c (by simp [hc])).2 hc
  rw [List.filter_append, List.filter_append, hgroup, outside (by simp) hdb,
    outside (by simp) fun c hc hg => hda (List.mem_append_right _ hg) hc, List.nil_append,
    List.append_nil]

/-- The members of a merged container are those of its group. -/
theorem members_of_block (hs : Stepwise containers) (hn : (containers.map (·.name)).Nodup)
    (hp : (number, first :: rest) ∈ blocks containers) (hr : rest ≠ []) :
    members containers (redirect (newNames containers) (standIn number first rest)) =
      first :: rest := by
  have hl : 1 < (first :: rest).length := by simpa using List.length_pos_iff.2 hr
  obtain ⟨before, after, he⟩ := block_split hp
  have hmem : ∀ c ∈ containers, (c.solutionContainer && (redirect (newNames containers)
      (standIn number first rest)).modes.contains (c.mode.getD "")) = true ↔ c ∈ first :: rest := by
    intro c hc
    rw [hs.modes_of_block hp hr, Bool.and_eq_true, List.contains_iff_mem, List.mem_map]
    constructor
    · rintro ⟨hsc, d, hd, hmode⟩
      obtain rfl := hs.eq_of_mode hn (mem_of_block hp hd) (solution_of_block hp hl hd) hc hsc hmode
      exact hd
    · exact fun hm => ⟨solution_of_block hp hl hm, c, hm, rfl⟩
  have hnodup : containers.Nodup := hn.of_map
  unfold members
  rw [he] at hnodup hmem ⊢
  exact filter_eq_infix hnodup hmem

/-- A container of the stacked list with the name of a merged one takes the place of a group. -/
theorem exists_block_of_mergedName (hu : ∀ c ∈ containers, ∀ n, c.name ≠ mergedName n)
    (h : s ∈ stack containers) (hname : s.name = mergedName number) :
    ∃ first rest, (number, first :: rest) ∈ blocks containers ∧ rest ≠ [] ∧
      s = redirect (newNames containers) (standIn number first rest) := by
  obtain ⟨n, first, rest, hp, rfl⟩ := mem_stack.1 h
  rw [redirect_name, standIn_name] at hname
  split at hname
  · exact absurd hname (hu first (mem_of_block hp List.mem_cons_self) number)
  · rename_i hr
    obtain rfl := mergedName_injective hname
    exact ⟨first, rest, hp, hr, rfl⟩

/-- A merged container is like its first member, its mode, its name and what it waits for apart. -/
theorem standIn_like_first (hr : rest ≠ []) {renamed : Table String}
    (hs : s = redirect renamed (standIn number first rest)) :
    (s.image = first.image ∧ s.entrypoint = first.entrypoint ∧ s.labels = first.labels ∧
      s.runArgs = first.runArgs ∧ s.runSizing = first.runSizing) ∧
    ∀ name ≠ containerModeVariable, s.envValue? name = first.envValue? name := by
  obtain ⟨dependencies, he⟩ := exists_redirect_eq renamed (standIn number first rest)
  rw [he, standIn, if_neg hr] at hs
  subst hs
  refine ⟨⟨rfl, rfl, rfl, rfl, rfl⟩, fun name hn => ?_⟩
  simp only [Container.envValue?, merged, Option.bind_some, Bindings.get?_put, if_neg hn]
  cases first.envVars <;> rfl

end Stack

namespace Pipeline

variable {settings : PlatformSettings} {checker : EventHubChecker} {request : RunRequest}
  {csmSimulationId : String} {template : RunTemplate} {stacked : List Container}

/-- A stacked run is what stacking makes of the run that is not stacked. -/
theorem exists_unstacked
    (h : (containers settings checker request csmSimulationId).outcome = .ok stacked)
    (ht : request.solution.template request.scenario.runTemplateId = .ok template)
    (hon : template.stackSteps = some true) :
    ∃ unstacked,
      Linked [] (inputWith settings checker request csmSimulationId template).stages unstacked ∧
      stacked = Stack.stack unstacked ∧ ∀ switch, switch ≠ some true →
        (containers settings checker (request.withStacking switch) csmSimulationId).outcome =
          .ok unstacked := by
  obtain ⟨template', linked, ht', hl, rfl⟩ := containers_eq_ok.1 h
  obtain rfl := Except.ok.inj (ht.symm.trans ht')
  refine ⟨linked, hl, Input.arrange_eq_stack hon, fun switch hoff => ?_⟩
  refine containers_eq_ok.2 ⟨template.withStacking switch, linked,
    template_withStacking switch ht, ?_, Input.arrange_eq_self hoff⟩
  rw [stages_withStacking switch ht]
  exact hl

variable {input : Input} {unstacked : List Container} {s first c : Container}
  {rest : List Container}

theorem exists_runSolution_of_block (h : Linked [] input.stages unstacked) {number : Nat}
    (hp : (number, first :: rest) ∈ Stack.blocks unstacked) (hr : rest ≠ [])
    (hc : c ∈ first :: rest) :
    ∃ step dependencies, (Step.runSolution input.run input.checker input.solution
      input.template.id step dependencies input.sizing).outcome = .ok c :=
  Input.exists_runSolution_of_linked h (Stack.mem_of_block hp hc)
    (Stack.solution_of_block hp (by simpa using List.length_pos_iff.2 hr) hc)

theorem like_first (h : Linked [] input.stages unstacked) {number : Nat}
    (hp : (number, first :: rest) ∈ Stack.blocks unstacked) (hr : rest ≠ [])
    (hc : c ∈ first :: rest) : c.image = first.image ∧ c.entrypoint = first.entrypoint ∧
      c.labels = first.labels ∧ c.runArgs = first.runArgs ∧ c.runSizing = first.runSizing := by
  obtain ⟨_, _, hfirst⟩ := exists_runSolution_of_block h hp hr List.mem_cons_self
  obtain ⟨_, _, hother⟩ := exists_runSolution_of_block h hp hr hc
  obtain ⟨hi, he, hlabels, ha, hsizing⟩ := Step.unvarying_of_runSolution hfirst
  obtain ⟨hi', he', hlabels', ha', hsizing'⟩ := Step.unvarying_of_runSolution hother
  exact ⟨hi'.trans hi.symm, he'.trans he.symm, hlabels'.trans hlabels.symm, ha'.trans ha.symm,
    hsizing'.trans hsizing.symm⟩

/-- The first member of a group keeps the variables of another one just when that one has no source
of its own. -/
theorem keeps_member_iff (ht : input.solution.template input.template.id = .ok input.template)
    (h : Linked [] input.stages unstacked) {number : Nat}
    (hp : (number, first :: rest) ∈ Stack.blocks unstacked) (hc : c ∈ rest) :
    first.Keeps c ↔
      ∃ step : SolutionStep, c.name = step.containerName ∧ step.source input.template = none := by
  have hr : rest ≠ [] := List.ne_nil_of_mem hc
  have hcm : c ∈ first :: rest := List.mem_cons_of_mem _ hc
  obtain ⟨i, given, hi⟩ := exists_runSolution_of_block h hp hr List.mem_cons_self
  obtain ⟨j, dependencies, hj⟩ := exists_runSolution_of_block h hp hr hcm
  have hfname := (Step.runSolution_eq_ok hi).1
  have hcname := (Step.runSolution_eq_ok hj).1
  -- two members of a group run different steps, as their names differ
  have hne : i ≠ j := by
    rintro rfl
    have hn := (Input.wellOrdered_linked h).names_nodup
    obtain ⟨before, after, he⟩ := Stack.block_split hp
    rw [he, List.map_append, List.map_append, List.map_cons] at hn
    have hgroup := hn.of_append_left.of_append_right
    exact (List.nodup_cons.1 hgroup).1 (hfname.trans hcname.symm ▸ List.mem_map_of_mem hc)
  rw [Step.keeps_iff ht hne hi hj]
  constructor
  · exact fun hsource => ⟨j, hcname, hsource⟩
  · rintro ⟨step, hname, hsource⟩
    rwa [SolutionStep.containerName_injective (hcname.symm.trans hname)]

/-- A merged container runs the image of all its members in the same way. It has the variables of
all of them, their modes apart, just when no member after the first has a source of its own. -/
theorem merged_keeps_iff
    (h : (containers settings checker request csmSimulationId).outcome = .ok stacked)
    (ht : request.solution.template request.scenario.runTemplateId = .ok template)
    (hon : template.stackSteps = some true) :
    ∃ unstacked,
      (∀ switch, switch ≠ some true →
        (containers settings checker (request.withStacking switch) csmSimulationId).outcome =
          .ok unstacked) ∧
      ∀ s ∈ stacked, ∀ number, s.name = Stack.mergedName number →
        1 < (Stack.members unstacked s).length ∧
        s.modes = (Stack.members unstacked s).map (fun c => c.mode.getD "") ∧
        (∀ c ∈ Stack.members unstacked s, c.image = s.image ∧ c.entrypoint = s.entrypoint ∧
          c.labels = s.labels ∧ c.runArgs = s.runArgs ∧ c.runSizing = s.runSizing) ∧
        ((∀ c ∈ Stack.members unstacked s, s.Keeps c) ↔
          ∀ c ∈ (Stack.members unstacked s).tail, ∃ step : SolutionStep,
            c.name = step.containerName ∧ step.source template = none) := by
  obtain ⟨unstacked, hl, rfl, hunstacked⟩ := exists_unstacked h ht hon
  refine ⟨unstacked, hunstacked, fun s hs number hname => ?_⟩
  have ht' := template_of_template_eq_ok ht
  have hsound := (inputWith settings checker request csmSimulationId template).stages_sound
  have hn := (Input.wellOrdered_linked hl).names_nodup
  have hstep : Stack.Stepwise unstacked := fun _ hm => hl.exists_step hsound hm
  have hu : ∀ c ∈ unstacked, ∀ n, c.name ≠ Stack.mergedName n :=
    fun _ hc n => hl.name_ne_mergedName hsound hc n
  obtain ⟨first, rest, hp, hr, he⟩ := Stack.exists_block_of_mergedName hu hs hname
  have hmembers : Stack.members unstacked s = first :: rest := by
    rw [he, Stack.members_of_block hstep hn hp hr]
  have hlength : 1 < (first :: rest).length := by simpa using List.length_pos_iff.2 hr
  obtain ⟨hlike, hvariables⟩ := Stack.standIn_like_first hr he
  rw [hmembers]
  refine ⟨hlength, by rw [he, hstep.modes_of_block hp hr], fun c hc => ?_, ?_⟩
  · rw [hlike.1, hlike.2.1, hlike.2.2.1, hlike.2.2.2.1, hlike.2.2.2.2]
    exact like_first hl hp hr hc
  · rw [List.tail_cons, List.forall_mem_cons]
    have hfirst : s.Keeps first := fun name value hmode hv => (hvariables name hmode).trans hv
    have hrest : ∀ c ∈ rest, s.Keeps c ↔ ∃ step : SolutionStep,
        c.name = step.containerName ∧ step.source template = none := by
      intro c hc
      refine Iff.trans ?_ (keeps_member_iff ht' hl hp hc)
      refine forall₄_congr fun name value hmode _ => ?_
      rw [hvariables name hmode]
    constructor
    · exact fun h c hc => (hrest c hc).1 (h.2 c hc)
    · exact fun h => ⟨hfirst, fun c hc => (hrest c hc).2 (h c hc)⟩

/-- A request in which the first step and the fourth one have sources of their own. -/
def sourcedRequest : RunRequest :=
  let template := { smallTemplate (some true) with
    parametersHandlerSource := some .git
    runSource := some .cloud }
  { smallRequest (some true) with
    solution := { (smallRequest (some true)).solution with runTemplates := [template] } }

/-- The source of the first step is kept, as this step comes first in its group; the one of the
fourth step is lost. -/
theorem sourcedRequest_keeps : ∃ unstacked stacked,
    (containers smallPlatform none sourcedRequest "id").outcome = .ok stacked ∧
    (containers smallPlatform none (sourcedRequest.withStacking none) "id").outcome =
      .ok unstacked ∧
    (∃ s ∈ stacked, s.name = Stack.mergedName 1 ∧
      ∀ c ∈ Stack.members unstacked s, s.Keeps c) ∧
    ∃ s ∈ stacked, s.name = Stack.mergedName 2 ∧
      ¬ ∀ c ∈ Stack.members unstacked s, s.Keeps c := by
  have hnames : (do
      let unstacked ←
        (containers smallPlatform none (sourcedRequest.withStacking none) "id").outcome
      let stacked ← (containers smallPlatform none sourcedRequest "id").outcome
      pure (stacked.map fun s => (s.name, (Stack.members unstacked s).map (·.name)))) =
      (.ok [("fetchScenarioParametersContainer", []),
        (Stack.mergedName 1, ["applyParametersContainer", "validateDataContainer"]),
        ("sendDataWarehouseContainer", []),
        (Stack.mergedName 2, ["preRunContainer", "runContainer", "postRunContainer"])] :
          Except Failure _) := by
    decide +kernel
  simp only [bind_eq_ok, pure_eq_ok] at hnames
  obtain ⟨unstacked, hu, stacked, h, hnames⟩ := hnames
  obtain ⟨unstacked', hoff, hkeeps⟩ := merged_keeps_iff h rfl rfl
  obtain rfl := Except.ok.inj (hu.symm.trans (hoff none (by simp)))
  have tail_names {s : Container} {name : String} {names : List String}
      (hm : (Stack.members unstacked s).map (·.name) = name :: names) :
      (Stack.members unstacked s).tail.map (·.name) = names := by
    rw [List.map_tail, hm, List.tail_cons]
  refine ⟨unstacked, stacked, h, hu, ?_, ?_⟩
  · obtain ⟨s, hs, he⟩ := List.mem_map.1 (hnames ▸ List.mem_cons_of_mem _ List.mem_cons_self)
    obtain ⟨hname, hmembers⟩ := Prod.mk.inj he
    refine ⟨s, hs, hname, (hkeeps s hs 1 hname).2.2.2.2 fun c hc => ⟨.validate, ?_, rfl⟩⟩
    have hc' := List.mem_map_of_mem (f := (·.name)) hc
    rw [tail_names hmembers] at hc'
    exact List.mem_singleton.1 hc'
  · obtain ⟨s, hs, he⟩ := List.mem_map.1 (hnames ▸ List.mem_cons_of_mem _
      (List.mem_cons_of_mem _ (List.mem_cons_of_mem _ List.mem_cons_self)))
    obtain ⟨hname, hmembers⟩ := Prod.mk.inj he
    refine ⟨s, hs, hname, fun hall => ?_⟩
    have hrun : "runContainer" ∈ (Stack.members unstacked s).tail.map (·.name) := by
      rw [tail_names hmembers]
      exact List.mem_cons_self
    obtain ⟨c, hc, hcname⟩ := List.mem_map.1 hrun
    obtain ⟨step, hstep, hsource⟩ := (hkeeps s hs 2 hname).2.2.2.1 hall c hc
    obtain rfl : SolutionStep.run = step :=
      SolutionStep.containerName_injective (hcname.symm.trans hstep)
    cases hsource

end Pipeline

end ScenarioCompiler
