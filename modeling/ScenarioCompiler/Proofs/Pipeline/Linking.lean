import Mathlib.Data.List.Nodup
import ScenarioCompiler.Pipeline.Compile
import ScenarioCompiler.Proofs.ContainerName
import ScenarioCompiler.Proofs.Pipeline.DependencyGraph
import ScenarioCompiler.Proofs.Pipeline.StackedOrder

namespace ScenarioCompiler

open DependencyGraph

namespace StageKind

/-- What the names of the containers of a stage begin with. -/
def baseName : StageKind → String
  | datasetFetch => Step.fetchDatasetName
  | scenarioParameterFetch => Step.fetchParametersName
  | datasetParameterFetch => Step.fetchDatasetParametersName
  | applyParameters => SolutionStep.applyParameters.containerName
  | validate => SolutionStep.validate.containerName
  | sendToWarehouse => Step.warehouseName
  | preRun => SolutionStep.preRun.containerName
  | run => SolutionStep.run.containerName
  | postRun => SolutionStep.postRun.containerName

/-- The step of the solution that a stage runs. -/
def step? : StageKind → Option SolutionStep
  | applyParameters => some .applyParameters
  | validate => some .validate
  | preRun => some .preRun
  | run => some .run
  | postRun => some .postRun
  | datasetFetch | scenarioParameterFetch | datasetParameterFetch | sendToWarehouse => none

/-- The kinds in the order of execution. -/
def all : List StageKind := [datasetFetch, scenarioParameterFetch, datasetParameterFetch,
  applyParameters, validate, sendToWarehouse, preRun, run, postRun]

theorem mem_all (kind : StageKind) : kind ∈ all := by
  cases kind <;> decide

theorem baseName_injective {first second : StageKind}
    (h : first.baseName.toList = second.baseName.toList) : first = second := by
  have hn : (all.map (·.baseName.toList)).Nodup := by decide +kernel
  exact List.inj_on_of_nodup_map hn first.mem_all second.mem_all h

end StageKind

/-- What stages build: the names of their containers begin alike, the containers wait within what
the stage is given, and a stage for a step of the solution builds the container of that step. -/
structure Built (kind : StageKind) (dependencies : Option (List String))
    (built : List Container) : Prop where
  names_nodup : (built.map (·.name)).Nodup
  stem_eq : ∀ c ∈ built, stem c.name = kind.baseName.toList
  waitsFor_subset : ∀ c ∈ built, c.waitsFor ⊆ dependencies.getD []
  plain : kind.step? = none → ∀ c ∈ built, c.solutionContainer = false
  solution : ∀ step, kind.step? = some step → ∃ c, built = [c] ∧ c.name = step.containerName ∧
    c.dependencies = dependencies ∧ c.solutionContainer = true ∧ c.mode = some step.mode

namespace Stage

variable {stage : Stage Compile} {stages : List (Stage Compile)} {frontier : List String}
  {containers built : List Container} {c x y : Container} {f : Failure}

/-- A stage that builds only what its kind allows, and that advances the frontier if it runs a step
of the solution. -/
structure Sound (stage : Stage Compile) : Prop where
  built : ∀ dependencies cs, (stage.build dependencies).outcome = .ok cs →
    Built stage.kind dependencies cs
  advances : stage.kind.step? ≠ none → stage.advancesFrontier = true

/-- The containers that stages build one after the other from a frontier on. -/
inductive Linked : List String → List (Stage Compile) → List Container → Prop
  | nil (frontier : List String) : Linked frontier [] []
  | skip {frontier : List String} {stage : Stage Compile} {rest : List (Stage Compile)}
      {later : List Container} (disabled : stage.enabled = false)
      (linked : Linked frontier rest later) : Linked frontier (stage :: rest) later
  | build {frontier : List String} {stage : Stage Compile} {rest : List (Stage Compile)}
      {built later : List Container} (enabled : stage.enabled = true)
      (outcome : (stage.build (stage.dependencies frontier)).outcome = .ok built)
      (linked : Linked (stage.frontierAfter frontier built) rest later) :
      Linked frontier (stage :: rest) (built ++ later)

theorem link_eq_ok :
    (link frontier stages).outcome = .ok containers ↔ Linked frontier stages containers := by
  induction stages generalizing frontier containers with
  | nil =>
    simp only [link, Traced.outcome_pure, Except.ok.injEq]
    exact ⟨fun h => h ▸ .nil frontier, fun h => by cases h; rfl⟩
  | cons stage rest ih =>
    rw [link]
    cases he : stage.enabled with
    | false =>
      simp only [Bool.false_eq_true, if_false, ih]
      constructor
      · exact .skip he
      · intro h
        cases h with
        | skip _ h => exact h
        | build h => simp [he] at h
    | true =>
      simp only [if_true, Traced.outcome_bind, Traced.outcome_pure, bind_eq_ok, Except.ok.injEq, ih]
      constructor
      · rintro ⟨built, hb, later, hl, rfl⟩
        exact .build he hb hl
      · intro h
        cases h with
        | skip h => simp [he] at h
        | build _ hb hl => exact ⟨_, hb, _, hl, rfl⟩

/-- Stages can be linked just when every enabled one can be built, provided that this does not
depend on what it waits for. -/
theorem exists_link_eq_ok {Buildable : Stage Compile → Prop}
    (hb : ∀ stage ∈ stages, ∀ dependencies,
      (∃ cs, (stage.build dependencies).outcome = .ok cs) ↔ Buildable stage) :
    (∃ cs, (link frontier stages).outcome = .ok cs) ↔
      ∀ stage ∈ stages, stage.enabled = true → Buildable stage := by
  induction stages generalizing frontier with
  | nil => simp [link]
  | cons stage rest ih =>
    have hrest := fun frontier => @ih frontier fun s hs => hb s (List.mem_cons_of_mem _ hs)
    rw [List.forall_mem_cons, link]
    cases he : stage.enabled with
    | false => simp [hrest]
    | true =>
      simp only [if_true, Traced.outcome_bind, Traced.outcome_pure, bind_eq_ok, Except.ok.injEq,
        forall_const]
      rw [← hb stage List.mem_cons_self (stage.dependencies frontier)]
      constructor
      · rintro ⟨_, built, hbuilt, later, hl, -⟩
        exact ⟨⟨built, hbuilt⟩, (hrest _).1 ⟨later, hl⟩⟩
      · rintro ⟨⟨built, hbuilt⟩, h⟩
        obtain ⟨later, hl⟩ := (hrest (stage.frontierAfter frontier built)).2 h
        exact ⟨_, built, hbuilt, later, hl, rfl⟩

theorem link_eq_error (h : (link frontier stages).outcome = .error f) :
    ∃ stage ∈ stages, stage.enabled = true ∧
      ∃ dependencies, (stage.build dependencies).outcome = .error f := by
  induction stages generalizing frontier with
  | nil => simp [link] at h
  | cons stage rest ih =>
    have later {frontier : List String} (h : (link frontier rest).outcome = .error f) :
        ∃ s ∈ stage :: rest, s.enabled = true ∧
          ∃ dependencies, (s.build dependencies).outcome = .error f := by
      obtain ⟨s, hs, hf⟩ := ih h
      exact ⟨s, List.mem_cons_of_mem _ hs, hf⟩
    rw [link] at h
    split at h
    · rename_i he
      simp only [Traced.outcome_bind, Traced.outcome_pure, bind_eq_error, reduceCtorEq, and_false,
        exists_false, or_false] at h
      rcases h with h | ⟨_, -, h⟩
      · exact ⟨stage, List.mem_cons_self, he, _, h⟩
      · exact later h
    · exact later h

/-! ### Order -/

theorem mem_frontier_of_mem_dependencies {d : String}
    (h : d ∈ (stage.dependencies frontier).getD []) (hr : d ≠ rootDependency) : d ∈ frontier := by
  unfold dependencies at h
  split at h
  · exact h
  · split at h
    · exact absurd (List.mem_singleton.1 h) hr
    · simp at h

theorem frontierAfter_subset (stage : Stage Compile) (frontier : List String)
    (built : List Container) :
    stage.frontierAfter frontier built ⊆ frontier ++ built.map (·.name) := by
  unfold frontierAfter
  split
  · exact List.subset_append_right _ _
  · exact List.subset_append_left _ _

theorem waitsWithin_of_built (h : Built stage.kind (stage.dependencies frontier) built) :
    WaitsWithin frontier built := by
  refine waitsWithin_of_forall fun c hc d hd => ?_
  exact mem_frontier_of_mem_dependencies (h.waitsFor_subset c hc hd) (Container.mem_waitsFor.1 hd).2

/-- Every container is one that a stage builds. -/
theorem Linked.exists_stage (h : Linked frontier stages containers) (hc : c ∈ containers) :
    ∃ stage ∈ stages, ∃ dependencies built,
      (stage.build dependencies).outcome = .ok built ∧ c ∈ built := by
  induction h with
  | nil => simp at hc
  | skip _ _ ih =>
    obtain ⟨s, hm, hb⟩ := ih hc
    exact ⟨s, List.mem_cons_of_mem _ hm, hb⟩
  | build _ hb _ ih =>
    rcases List.mem_append.1 hc with hc | hc
    · exact ⟨_, List.mem_cons_self, _, _, hb, hc⟩
    · obtain ⟨s, hm, hb⟩ := ih hc
      exact ⟨s, List.mem_cons_of_mem _ hm, hb⟩

variable (hs : ∀ stage ∈ stages, stage.Sound)

include hs

theorem Linked.waitsWithin (h : Linked frontier stages containers) :
    WaitsWithin frontier containers := by
  induction h with
  | nil => trivial
  | skip _ _ ih => exact ih (List.forall_mem_cons.1 hs).2
  | build _ hb _ ih =>
    obtain ⟨hstage, hrest⟩ := List.forall_mem_cons.1 hs
    have hbuilt := waitsWithin_of_built (hstage.built _ _ hb)
    have hlater := (ih hrest).mono (frontierAfter_subset _ _ _)
    exact waitsWithin_append.2 ⟨hbuilt, hlater⟩

theorem Linked.exists_built (h : Linked frontier stages containers) (hc : c ∈ containers) :
    ∃ stage ∈ stages, ∃ dependencies built, Built stage.kind dependencies built ∧ c ∈ built := by
  obtain ⟨stage, hm, dependencies, built, hb, hc⟩ := h.exists_stage hc
  exact ⟨stage, hm, dependencies, built, (hs stage hm).built _ _ hb, hc⟩

theorem Linked.stem_eq (h : Linked frontier stages containers) (hc : c ∈ containers) :
    ∃ stage ∈ stages, stem c.name = stage.kind.baseName.toList := by
  obtain ⟨stage, hm, _, _, hb, hc⟩ := h.exists_built hs hc
  exact ⟨stage, hm, hb.stem_eq c hc⟩

theorem Linked.name_ne (h : Linked frontier stages containers) (hc : c ∈ containers) {name : String}
    (hn : ∀ kind : StageKind, kind.baseName.toList ≠ stem name) : c.name ≠ name := by
  rintro rfl
  obtain ⟨stage, -, hstem⟩ := h.stem_eq hs hc
  exact hn stage.kind hstem.symm

theorem Linked.name_ne_mergedName (h : Linked frontier stages containers) (hc : c ∈ containers)
    (number : Nat) : c.name ≠ Stack.mergedName number := by
  refine h.name_ne hs hc fun kind => ?_
  rw [Stack.stem_mergedName]
  cases kind <;> decide +kernel

theorem Linked.unreserved (h : Linked frontier stages containers) :
    Stack.Unreserved containers := by
  refine fun c hc => ⟨h.name_ne hs hc fun kind => ?_, fun p _ _ => h.name_ne_mergedName hs hc p.1⟩
  cases kind <;> decide +kernel

/-- Stages of different kinds build containers of different names. -/
theorem Linked.names_nodup (h : Linked frontier stages containers)
    (hk : (stages.map (·.kind)).Nodup) : (containers.map (·.name)).Nodup := by
  induction h with
  | nil => simp
  | skip _ _ ih => exact ih (List.forall_mem_cons.1 hs).2 (List.nodup_cons.1 hk).2
  | build _ hb hl ih =>
    obtain ⟨hstage, hrest⟩ := List.forall_mem_cons.1 hs
    have hbuilt := hstage.built _ _ hb
    obtain ⟨hnew, hk⟩ := List.nodup_cons.1 hk
    rw [List.map_append, List.nodup_append]
    -- two containers of one name would begin alike, so their stages would be of one kind
    refine ⟨hbuilt.names_nodup, ih hrest hk, fun name hn other ho he => ?_⟩
    obtain ⟨x, hx, rfl⟩ := List.mem_map.1 hn
    obtain ⟨y, hy, rfl⟩ := List.mem_map.1 ho
    obtain ⟨s, hm, hstem⟩ := hl.stem_eq hrest hy
    rw [← he, hbuilt.stem_eq x hx] at hstem
    exact hnew (List.mem_map.2 ⟨s, hm, (StageKind.baseName_injective hstem).symm⟩)

/-- A linked list is well ordered. -/
theorem Linked.wellOrdered (h : Linked [] stages containers) (hk : (stages.map (·.kind)).Nodup) :
    WellOrdered containers :=
  ⟨h.names_nodup hs hk, h.waitsWithin hs⟩

/-- The solution containers are those of the steps. -/
theorem Linked.exists_step (h : Linked frontier stages containers) (hc : c ∈ containers)
    (hsol : c.solutionContainer = true) :
    ∃ step : SolutionStep, c.name = step.containerName ∧ c.mode = some step.mode := by
  obtain ⟨stage, hm, _, _, hb, hc⟩ := h.exists_built hs hc
  cases hk : stage.kind.step? with
  | none => simp [hb.plain hk c hc] at hsol
  | some step =>
    obtain ⟨x, rfl, hname, -, -, hmode⟩ := hb.solution step hk
    rw [List.mem_singleton.1 hc]
    exact ⟨step, hname, hmode⟩

/-- A solution container that comes first after another container waits for that container only,
and the others after it wait for none before it. -/
theorem Linked.next_solution {name : String} (hn : name ≠ rootDependency)
    {after : List Container} (h : Linked frontier stages containers) (hf : frontier = [name])
    (hc : containers = y :: after) (hy : y.solutionContainer = true) :
    y.waitsFor = [name] ∧ WaitsWithin [y.name] after := by
  induction h with
  | nil => simp at hc
  | skip _ _ ih => exact ih (List.forall_mem_cons.1 hs).2 hf hc
  | @build _ stage _ built _ _ hb hl ih =>
    obtain ⟨hstage, hrest⟩ := List.forall_mem_cons.1 hs
    have hbuilt := hstage.built _ _ hb
    cases built with
    -- a stage that built nothing leaves the frontier as it was
    | nil => exact ih hrest (by simp [frontierAfter, hf]) hc
    | cons x xs =>
      obtain ⟨rfl, rfl⟩ := List.cons.inj hc
      cases hk : stage.kind.step? with
      | none => simp [hbuilt.plain hk x List.mem_cons_self] at hy
      | some step =>
        obtain ⟨z, hz, -, hd, -⟩ := hbuilt.solution step hk
        obtain ⟨rfl, rfl⟩ := List.cons.inj hz
        have hadv := hstage.advances (by simp [hk])
        have hw := hl.waitsWithin hrest
        rw [frontierAfter, hadv] at hw
        refine ⟨?_, hw⟩
        simp [Container.waitsFor, hd, dependencies, hf, hn]

/-- In a linked list each run of solution containers is a chain. -/
theorem Linked.chained (h : Linked frontier stages containers)
    (hk : (stages.map (·.kind)).Nodup) : Stack.Chained containers := by
  -- other containers in front of a chain change nothing, a solution container is one more link
  induction h with
  | nil =>
    intro before x y after he
    simp at he
  | skip _ _ ih => exact ih (List.forall_mem_cons.1 hs).2 (List.nodup_cons.1 hk).2
  | @build frontier stage rest built later he hb hl ih =>
    obtain ⟨hstage, hrest⟩ := List.forall_mem_cons.1 hs
    have hbuilt := hstage.built _ _ hb
    have hnodup := (Linked.build he hb hl).names_nodup hs hk
    have hlater := ih hrest (List.nodup_cons.1 hk).2
    cases hstep : stage.kind.step? with
    | none => exact hlater.append (hbuilt.plain hstep)
    | some step =>
      obtain ⟨x, rfl, hname, -⟩ := hbuilt.solution step hstep
      have hadv := hstage.advances (by simp [hstep])
      refine hlater.cons fun y after hy _ hsol => ?_
      have hroot : x.name ≠ rootDependency := by
        rw [hname]
        cases step <;> decide
      rw [frontierAfter, hadv] at hl
      obtain ⟨hwaits, hw⟩ := hl.next_solution hrest hroot rfl hy hsol
      refine ⟨hwaits, fun z hz hd => ?_⟩
      have hm : x.name ∈ [y.name] ++ after.map (·.name) := hw.subset hz hd
      subst hy
      exact (List.nodup_cons.1 hnodup).1 hm

end Stage

end ScenarioCompiler
