import ScenarioCompiler.Proofs.Pipeline.Compile
import ScenarioCompiler.Proofs.Pipeline.StackedOrder

namespace ScenarioCompiler

open DependencyGraph Stage

namespace Container

/-- The modes that a container runs one after the other. -/
def modes (c : Container) : List String := ((c.mode.getD "").toList.splitOn ',').map String.ofList

/-- A container runs the mode of `first` before the mode of `second`. -/
def RunsBefore (c first second : Container) : Prop :=
  ∃ m n, first.mode = some m ∧ second.mode = some n ∧ [m, n].Sublist c.modes

end Container

/-- A container waits for another one, directly or through others. -/
def DependsOn (containers : List Container) (c other : Container) : Prop :=
  Relation.TransGen (Edge containers) other.name c.name

namespace Stack

variable {containers group : List Container} {a b c s t : Container} {p : Nat × List Container}

/-- What takes the place of a container when a list is stacked: the container itself or the one
that its group is merged into, with its dependencies renamed. -/
def StandsFor (containers : List Container) (c s : Container) : Prop :=
  ∃ p ∈ blocks containers, c ∈ p.2 ∧ s ∈ (ofGroup p).map (redirect (newNames containers))

theorem standsFor_iff : StandsFor containers c s ↔
    ∃ number first rest, (number, first :: rest) ∈ blocks containers ∧ c ∈ first :: rest ∧
      s = redirect (newNames containers) (standIn number first rest) := by
  constructor
  · rintro ⟨p, hp, hc, hs⟩
    obtain ⟨number, first, rest, rfl⟩ := exists_first hp
    rw [ofGroup_cons, List.map_singleton, List.mem_singleton] at hs
    exact ⟨number, first, rest, hp, hc, hs⟩
  · rintro ⟨number, first, rest, hp, hc, rfl⟩
    refine ⟨_, hp, hc, ?_⟩
    rw [ofGroup_cons]
    exact List.mem_singleton_self _

theorem StandsFor.mem_stack (h : StandsFor containers c s) : s ∈ stack containers := by
  obtain ⟨number, first, rest, hp, -, rfl⟩ := standsFor_iff.1 h
  exact Stack.mem_stack.2 ⟨number, first, rest, hp, rfl⟩

theorem StandsFor.name_eq (hn : (containers.map (·.name)).Nodup) (h : StandsFor containers c s) :
    s.name = newName containers c.name := by
  obtain ⟨number, first, rest, hp, hc, rfl⟩ := standsFor_iff.1 h
  rw [redirect_name, newName_of_block hn hp hc]

/-- Every container has exactly one that stands for it. -/
theorem existsUnique_standsFor (hn : (containers.map (·.name)).Nodup) (hc : c ∈ containers) :
    ∃! s, StandsFor containers c s := by
  obtain ⟨p, hp, hm⟩ := exists_block hc
  obtain ⟨number, first, rest, rfl⟩ := exists_first hp
  refine ⟨_, standsFor_iff.2 ⟨number, first, rest, hp, hm, rfl⟩, fun s hs => ?_⟩
  obtain ⟨n, x, xs, hq, hmq, rfl⟩ := standsFor_iff.1 hs
  cases block_unique hn.of_map hp hq hm hmq
  rfl

/-- Every container of the stacked list stands for one of the list. -/
theorem exists_standsFor (h : s ∈ stack containers) :
    ∃ c ∈ containers, StandsFor containers c s := by
  obtain ⟨number, first, rest, hp, rfl⟩ := Stack.mem_stack.1 h
  exact ⟨first, mem_of_block hp List.mem_cons_self,
    standsFor_iff.2 ⟨number, first, rest, hp, List.mem_cons_self, rfl⟩⟩

/-! ### Modes -/

@[simp] theorem redirect_mode (renamed : Table String) (c : Container) :
    (redirect renamed c).mode = c.mode := by
  obtain ⟨dependencies, h⟩ := exists_redirect_eq renamed c
  rw [h]
  rfl

theorem merged_mode (number : Nat) (first : Container) (group : List Container) :
    (merged number first group).mode = some (joinedModes group) := by
  simp [Container.mode, merged, Bindings.get?_put]

theorem modes_of_joined (hmode : s.mode = some (joinedModes group)) (hg : group ≠ [])
    (hm : ∀ c ∈ group, ',' ∉ (c.mode.getD "").toList) :
    s.modes = group.map fun c => c.mode.getD "" := by
  have hj : (joinedModes group).toList =
      [','].intercalate (group.map fun c => (c.mode.getD "").toList) := by
    rw [joinedModes, String.toList_intercalate, List.map_map]
    rfl
  rw [Container.modes, hmode, Option.getD_some, hj, List.splitOn_intercalate, List.map_map]
  · simp [Function.comp_def]
  · simpa using hm
  · simpa using hg

theorem modes_merged (number : Nat) (first : Container) (hg : group ≠ [])
    (hm : ∀ c ∈ group, ',' ∉ (c.mode.getD "").toList) :
    (merged number first group).modes = group.map fun c => c.mode.getD "" :=
  modes_of_joined (merged_mode number first group) hg hm

theorem pair_sublist_map {f : Container → String}
    (hf : ∀ x ∈ group, ∀ y ∈ group, f x = f y → x = y) (ha : a ∈ group) (hb : b ∈ group) :
    [f a, f b].Sublist (group.map f) ↔ [a, b].Sublist group := by
  refine ⟨fun h => ?_, fun h => h.map f⟩
  obtain ⟨l, hl, he⟩ := List.sublist_map_iff.1 h
  obtain ⟨x, l, rfl, hx, he⟩ := List.map_eq_cons_iff.1 he.symm
  obtain ⟨y, l, rfl, hy, he⟩ := List.map_eq_cons_iff.1 he
  obtain rfl := List.map_eq_nil_iff.1 he
  rw [← hf x (hl.subset (by simp)) a ha hx, ← hf y (hl.subset (by simp)) b hb hy]
  exact hl

/-- The solution containers run the steps, each one its own. -/
def Stepwise (containers : List Container) : Prop :=
  ∀ c ∈ containers, c.solutionContainer = true →
    ∃ step : SolutionStep, c.name = step.containerName ∧ c.mode = some step.mode

/-- Solution containers of one mode run one step, whose name only one of them has. -/
theorem Stepwise.eq_of_mode (hs : Stepwise containers) (hn : (containers.map (·.name)).Nodup)
    (ha : a ∈ containers) (hsa : a.solutionContainer = true) (hb : b ∈ containers)
    (hsb : b.solutionContainer = true) (h : a.mode.getD "" = b.mode.getD "") : a = b := by
  obtain ⟨i, hai, hmi⟩ := hs a ha hsa
  obtain ⟨j, hbj, hmj⟩ := hs b hb hsb
  rw [hmi, hmj] at h
  have hij : i = j := SolutionStep.mode_injective h
  exact List.inj_on_of_nodup_map hn ha hb (by rw [hai, hbj, hij])

/-- A merged container runs the modes of its members. -/
theorem Stepwise.modes_of_block (hs : Stepwise containers) {number : Nat} {first : Container}
    {rest : List Container} (hp : (number, first :: rest) ∈ blocks containers) (hr : rest ≠ []) :
    (redirect (newNames containers) (standIn number first rest)).modes =
      (first :: rest).map fun c => c.mode.getD "" := by
  have hl : 1 < (first :: rest).length := by simpa using List.length_pos_iff.2 hr
  have hcomma : ∀ c ∈ first :: rest, ',' ∉ (c.mode.getD "").toList := by
    intro c hc
    obtain ⟨step, -, hm⟩ := hs c (mem_of_block hp hc) (solution_of_block hp hl hc)
    rw [hm, Option.getD_some]
    exact step.comma_notMem_mode
  rw [Container.modes, redirect_mode, standIn, if_neg hr, ← Container.modes,
    modes_merged number first (List.cons_ne_nil _ _) hcomma]

/-- A merged container runs the modes of its members in their order. -/
theorem runsBefore_iff_sublist (hn : (containers.map (·.name)).Nodup) (hs : Stepwise containers)
    {number : Nat} {first : Container} {rest : List Container}
    (hp : (number, first :: rest) ∈ blocks containers) (ha : a ∈ first :: rest)
    (hb : b ∈ first :: rest) (hne : a ≠ b) :
    (redirect (newNames containers) (standIn number first rest)).RunsBefore a b ↔
      [a, b].Sublist (first :: rest) := by
  have hrest : rest ≠ [] := by
    rintro rfl
    exact hne ((List.mem_singleton.1 ha).trans (List.mem_singleton.1 hb).symm)
  have hl : 1 < (first :: rest).length := by simpa using List.length_pos_iff.2 hrest
  have hsolution : ∀ c ∈ first :: rest, c ∈ containers ∧ c.solutionContainer = true :=
    fun c hc => ⟨mem_of_block hp hc, solution_of_block hp hl hc⟩
  have hinj : ∀ x ∈ first :: rest, ∀ y ∈ first :: rest,
      x.mode.getD "" = y.mode.getD "" → x = y := by
    intro x hx y hy he
    obtain ⟨hxm, hxs⟩ := hsolution x hx
    obtain ⟨hym, hys⟩ := hsolution y hy
    exact hs.eq_of_mode hn hxm hxs hym hys he
  rw [← pair_sublist_map hinj ha hb, ← hs.modes_of_block hp hrest]
  obtain ⟨i, -, hmi⟩ := hs a (hsolution a ha).1 (hsolution a ha).2
  obtain ⟨j, -, hmj⟩ := hs b (hsolution b hb).1 (hsolution b hb).2
  simp [Container.RunsBefore, hmi, hmj]

/-- Stacking keeps the order of execution: within a group it becomes the order of the modes, and
between groups it is the order of the merged containers. -/
theorem dependsOn_iff (hw : WellOrdered containers) (hu : Unreserved containers)
    (hc : Chained containers) (hs : Stepwise containers) (ha : a ∈ containers)
    (hb : b ∈ containers) (hne : a ≠ b) (has : StandsFor containers a s)
    (hbt : StandsFor containers b t) :
    DependsOn containers b a ↔
      s = t ∧ s.RunsBefore a b ∨ s ≠ t ∧ DependsOn (stack containers) t s := by
  have hn := hw.names_nodup
  have hsname := has.name_eq hn
  have htname := hbt.name_eq hn
  obtain ⟨m, x, xs, hp, hap, hs'⟩ := standsFor_iff.1 has
  obtain ⟨n, y, ys, hq, hbq, ht'⟩ := standsFor_iff.1 hbt
  have hsame := newName_eq_iff hn hu hp hq hap hbq
  by_cases hst : s = t
  · have hpq := hsame.1 (by rw [← hsname, ← htname, hst])
    cases hpq
    rw [DependsOn, transGen_iff_sublist hw hc hp hap hbq hne,
      ← runsBefore_iff_sublist hn hs hp hap hbq hne, ← hs']
    simp [hst]
  · have hnames : newName containers a.name ≠ newName containers b.name := by
      intro h
      cases hsame.1 h
      exact hst (hs'.trans ht'.symm)
    rw [DependsOn, transGen_stack hw hu hc ha hb hnames, ← hsname, ← htname]
    simp [hst, DependsOn]

end Stack

/-! ### Switching stacking on and off -/

def RunTemplate.withStacking (template : RunTemplate) (stackSteps : Option Bool) : RunTemplate :=
  { template with stackSteps }

/-- The solution with another choice of stacking in the run templates of an id. -/
def Solution.withStacking (solution : Solution) (id : String) (stackSteps : Option Bool) :
    Solution :=
  { solution with
    runTemplates := solution.runTemplates.map fun t =>
      if t.id = id then t.withStacking stackSteps else t }

/-- The request with another choice of stacking in the run template of its scenario. -/
def RunRequest.withStacking (request : RunRequest) (stackSteps : Option Bool) : RunRequest :=
  { request with
    solution := request.solution.withStacking request.scenario.runTemplateId stackSteps }

def RunTemplate.stacked (template : RunTemplate) : RunTemplate := template.withStacking (some true)

/-- The request with stacking switched on in the run template of its scenario. -/
def RunRequest.stacked (request : RunRequest) : RunRequest := request.withStacking (some true)

namespace Pipeline

variable {settings : PlatformSettings} {checker : EventHubChecker} {request : RunRequest}
  {csmSimulationId id : String} {solution : Solution} {template : RunTemplate}

theorem template_withStacking (stackSteps : Option Bool) (h : solution.template id = .ok template) :
    (solution.withStacking id stackSteps).template id =
      .ok (template.withStacking stackSteps) := by
  have hf := template_eq_ok.1 h
  have hid : template.id = id := by simpa using List.find?_some hf
  have hp : ((fun t : RunTemplate => t.id == id) ∘
      fun t => if t.id = id then t.withStacking stackSteps else t) = fun t => t.id == id := by
    funext t
    by_cases ht : t.id = id <;> simp [ht, RunTemplate.withStacking]
  rw [template_eq_ok, Solution.withStacking, List.find?_map, hp, hf]
  simp [hid]

theorem perParameter_withStacking (stackSteps : Option Bool) (values : List ParameterValue) :
    DatasetIds.perParameter (solution.withStacking id stackSteps) values =
      DatasetIds.perParameter solution values := by
  induction values with
  | nil => rfl
  | cons value rest ih =>
    rw [DatasetIds.perParameter, DatasetIds.perParameter, ih]
    rfl

theorem runSolution_withStacking (stackSteps : Option Bool) {run : RunContext}
    {step : SolutionStep} {dependencies : Option (List String)} {sizing : Option ResourceSizing}
    (h : solution.template id = .ok template) :
    Step.runSolution run checker (solution.withStacking id stackSteps) template.id step dependencies
        sizing =
      Step.runSolution run checker solution template.id step dependencies sizing := by
  have hid : template.id = id := by simpa using List.find?_some (template_eq_ok.1 h)
  unfold Step.runSolution
  rw [hid, h, template_withStacking stackSteps h]
  rfl

/-- Whether a run is stacked does not change what its stages build. -/
theorem stages_withStacking (stackSteps : Option Bool)
    (h : request.solution.template request.scenario.runTemplateId = .ok template) :
    (inputWith settings checker (request.withStacking stackSteps) csmSimulationId
        (template.withStacking stackSteps)).stages =
      (inputWith settings checker request csmSimulationId template).stages := by
  have hsolution : ∀ kind step,
      (inputWith settings checker (request.withStacking stackSteps) csmSimulationId
        (template.withStacking stackSteps)).solutionStage kind step =
      (inputWith settings checker request csmSimulationId template).solutionStage kind step := by
    intro kind step
    unfold Input.solutionStage
    congr 1
    funext dependencies
    exact congrArg (· >>= fun container => pure [container])
      (runSolution_withStacking stackSteps h :)
  have hparameters :
      (inputWith settings checker (request.withStacking stackSteps) csmSimulationId
        (template.withStacking stackSteps)).datasetParameterFetch =
      (inputWith settings checker request csmSimulationId template).datasetParameterFetch := by
    unfold Input.datasetParameterFetch
    congr 1
    funext dependencies
    change Traced.ofExcept
      (Step.fetchDatasetParameters _ _ _ (request.solution.withStacking _ _) _) = _
    unfold Step.fetchDatasetParameters
    rw [perParameter_withStacking]
    rfl
  rw [Input.stages, hparameters, hsolution, hsolution, hsolution, hsolution, hsolution]
  rfl

/-- A request that compiles without stacking also compiles with it, into the stacked list. -/
theorem containers_stacked {unstacked : List Container}
    (h : (containers settings checker request csmSimulationId).outcome = .ok unstacked)
    (hoff : ∀ template, request.solution.template request.scenario.runTemplateId = .ok template →
      template.stackSteps ≠ some true) :
    (containers settings checker request.stacked csmSimulationId).outcome =
        .ok (Stack.stack unstacked) ∧
      ∃ input : Input, Linked [] input.stages unstacked := by
  obtain ⟨template, linked, ht, hl, rfl⟩ := containers_eq_ok.1 h
  rw [Input.arrange_eq_self (hoff template ht)]
  have hlinked : Linked []
      (inputWith settings checker request.stacked csmSimulationId template.stacked).stages linked :=
    (congrArg (Linked [] · linked) (stages_withStacking (some true) ht)).mpr hl
  exact ⟨containers_eq_ok.2 ⟨template.stacked, linked, template_withStacking (some true) ht,
    hlinked, rfl⟩, _, hl⟩

/-- Stacking preserves the order of execution. Each container of a run has exactly one that stands
for it in the stacked run, and every stacked container stands for one. A container waits for
another one just when the one that stands for both runs their modes in this order, or the one that
stands for it waits for the one that stands for the other. -/
theorem stacking_preserves_order {unstacked : List Container}
    (h : (containers settings checker request csmSimulationId).outcome = .ok unstacked)
    (hoff : ∀ template, request.solution.template request.scenario.runTemplateId = .ok template →
      template.stackSteps ≠ some true) :
    ∃ stacked,
      (containers settings checker request.stacked csmSimulationId).outcome = .ok stacked ∧
      (∀ c ∈ unstacked, ∃! s, Stack.StandsFor unstacked c s) ∧
      (∀ c s, Stack.StandsFor unstacked c s → s ∈ stacked) ∧
      (∀ s ∈ stacked, ∃ c ∈ unstacked, Stack.StandsFor unstacked c s) ∧
      ∀ a ∈ unstacked, ∀ b ∈ unstacked, a ≠ b → ∀ s t, Stack.StandsFor unstacked a s →
        Stack.StandsFor unstacked b t →
        (DependsOn unstacked b a ↔
          s = t ∧ s.RunsBefore a b ∨ s ≠ t ∧ DependsOn stacked t s) := by
  obtain ⟨hstacked, input, hl⟩ := containers_stacked h hoff
  have hw := Input.wellOrdered_linked hl
  have hu := hl.unreserved input.stages_sound
  have hc := hl.chained input.stages_sound input.kinds_nodup
  have hs : Stack.Stepwise unstacked := fun _ hm => hl.exists_step input.stages_sound hm
  refine ⟨_, hstacked, fun c hm => Stack.existsUnique_standsFor hw.names_nodup hm,
    fun c s hcs => hcs.mem_stack, fun s hm => Stack.exists_standsFor hm, ?_⟩
  intro a ha b hb hne s t has hbt
  exact Stack.dependsOn_iff hw hu hc hs ha hb hne has hbt

theorem smallRun_preserves_order : ∃ unstacked stacked,
    (containers smallPlatform none (smallRequest none) "id").outcome = .ok unstacked ∧
    (containers smallPlatform none (smallRequest (some true)) "id").outcome = .ok stacked ∧
    ∀ a ∈ unstacked, ∀ b ∈ unstacked, a ≠ b → ∀ s t, Stack.StandsFor unstacked a s →
      Stack.StandsFor unstacked b t →
      (DependsOn unstacked b a ↔ s = t ∧ s.RunsBefore a b ∨ s ≠ t ∧ DependsOn stacked t s) := by
  have hoff : ∀ template, (smallRequest none).solution.template "template" = .ok template →
      template.stackSteps ≠ some true := by
    intro template h
    rw [← Except.ok.inj h]
    decide
  have hunstacked : (containers smallPlatform none (smallRequest none) "id").outcome = .ok _ := rfl
  obtain ⟨stacked, hs, -, -, -, horder⟩ := stacking_preserves_order hunstacked hoff
  exact ⟨_, stacked, hunstacked, hs, horder⟩

end Pipeline

end ScenarioCompiler
