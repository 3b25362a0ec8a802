import Mathlib.Data.List.Chain
import ScenarioCompiler.Proofs.Pipeline.ExecutionOrder
import ScenarioCompiler.Proofs.Pipeline.SolutionRuns

namespace ScenarioCompiler.Stack

variable {containers stacked run rest : List Container} {c s first : Container} {count number : Nat}

/-! ### What takes the place of a run -/

/-- A container like another one, except for what it depends on. -/
def SameStep (c s : Container) : Prop := s = { c with dependencies := s.dependencies }

/-- The container that a run of two or more becomes. It is like the first member, except for its
name, for what it depends on, and for the variable with the modes of all members, which stays in
its place or comes last. -/
structure MergedFrom (number : Nat) (first : Container) (run : List Container) (s : Container) :
    Prop where
  like_first : s = { first with
    name := mergedName number, envVars := s.envVars, dependencies := s.dependencies }
  bindings : ∃ bindings, s.envVars = some bindings ∧
    bindings.names =
      (let names := (first.envVars.getD .empty).names
      if containerModeVariable ∈ names then names else names ++ [containerModeVariable]) ∧
    bindings.get? containerModeVariable =
      some (",".intercalate (run.map fun c => c.mode.getD "")) ∧
    ∀ name ≠ containerModeVariable, bindings.get? name = first.envValue? name

/-- One container takes the place of each maximal run of solution containers. The runs of all
lengths are numbered from `count + 1` on, and those of two or more are named by their numbers. -/
inductive Replaced : (count : Nat) → List Container → List Container → Prop
  | nil {count : Nat} : Replaced count [] []
  | plain {count : Nat} {c s : Container} {rest stacked : List Container}
      (hc : c.solutionContainer = false) (hs : SameStep c s)
      (later : Replaced count rest stacked) : Replaced count (c :: rest) (s :: stacked)
  | single {count : Nat} {c s : Container} {rest stacked : List Container}
      (hc : c.solutionContainer = true) (right : ∀ d ∈ rest.head?, d.solutionContainer = false)
      (hs : SameStep c s) (later : Replaced (count + 1) rest stacked) :
      Replaced count (c :: rest) (s :: stacked)
  | merged {count : Nat} {first second s : Container} {others rest stacked : List Container}
      (solution : ∀ c ∈ first :: second :: others, c.solutionContainer = true)
      (right : ∀ d ∈ rest.head?, d.solutionContainer = false)
      (hs : MergedFrom (count + 1) first (first :: second :: others) s)
      (later : Replaced (count + 1) rest stacked) :
      Replaced count (first :: second :: others ++ rest) (s :: stacked)

theorem sameStep_redirect (renamed : Table String) (c : Container) :
    SameStep c (redirect renamed c) := by
  obtain ⟨dependencies, h⟩ := exists_redirect_eq renamed c
  rw [SameStep, h]

theorem mergedFrom_redirect (renamed : Table String) (number : Nat) (first : Container)
    (run : List Container) :
    MergedFrom number first run (redirect renamed (merged number first run)) := by
  obtain ⟨dependencies, h⟩ := exists_redirect_eq renamed (merged number first run)
  rw [h]
  refine ⟨rfl, _, rfl, Table.names_put _ _ _, ?_, fun name hn => ?_⟩
  · rw [Bindings.get?_put, if_pos rfl, joinedModes]
  · rw [Bindings.get?_put, if_neg hn, Container.envValue?]
    cases first.envVars <;> rfl

/-! ### Runs from the front -/

/-- A list is made from the front by containers outside the runs and by whole runs. -/
theorem run_induction {P : List Container → Prop} (nil : P [])
    (plain : ∀ c rest, c.solutionContainer = false → P rest → P (c :: rest))
    (run : ∀ run rest, run ≠ [] → (∀ c ∈ run, c.solutionContainer = true) →
      (∀ c ∈ rest.head?, c.solutionContainer = false) → P rest → P (run ++ rest))
    (containers : List Container) : P containers := by
  -- on the length, as a run takes several containers off the front at once
  induction hn : containers.length using Nat.strong_induction_on generalizing containers with
  | _ n ih =>
    cases containers with
    | nil => exact nil
    | cons c rest =>
      subst hn
      cases hc : c.solutionContainer with
      | false => exact plain c rest hc (ih _ (Nat.lt_succ_self _) rest rfl)
      | true =>
        have hlength : (rest.dropWhile (·.solutionContainer)).length < (c :: rest).length :=
          Nat.lt_succ_of_le (List.dropWhile_sublist _).length_le
        have hrun := run (c :: rest.takeWhile (·.solutionContainer))
          (rest.dropWhile (·.solutionContainer)) (List.cons_ne_nil _ _)
          (List.forall_mem_cons.2 ⟨hc, fun d hd => List.mem_takeWhile_imp hd⟩)
          (fun d hd => by simpa [Option.mem_def.1 hd] using
            List.head?_dropWhile_not (·.solutionContainer) rest)
          (ih _ hlength _ rfl)
        rwa [List.cons_append, List.takeWhile_append_dropWhile] at hrun

theorem groups_cons_plain (hc : c.solutionContainer = false) (rest : List Container) :
    groups (c :: rest) = [c] :: groups rest := by
  have hp : Parted [c] rest := by
    intro x hx _ _ hs
    rw [← Option.some.inj hx] at hs
    exact absurd hs (Bool.eq_false_iff.1 hc)
  exact groups_append hp

theorem groups_run_append (hne : run ≠ []) (hs : ∀ c ∈ run, c.solutionContainer = true)
    (right : ∀ c ∈ rest.head?, c.solutionContainer = false) :
    groups (run ++ rest) = run :: groups rest := by
  have hp : Parted run rest := fun _ _ y hy _ => right y hy
  rw [groups_append hp, groups_of_solution hne hs, List.singleton_append]

/-- The groups of a list, each with the container in its place. -/
theorem replaced_groups (renamed : Table String) (count : Nat) (containers : List Container) :
    Replaced count containers
      (((numbered count (groups containers)).flatMap ofGroup).map (redirect renamed)) := by
  induction containers using run_induction generalizing count with
  | nil => exact .nil
  | plain c rest hc ih =>
    have hany : ([c].any (·.solutionContainer)) = false := by simp [hc]
    rw [groups_cons_plain hc, numbered, hany]
    exact .plain hc (sameStep_redirect renamed c) (ih count)
  | run run rest hne hs right ih =>
    obtain ⟨first, others, rfl⟩ := List.exists_cons_of_ne_nil hne
    have hany : (first :: others).any (·.solutionContainer) = true := by
      rw [List.any_cons, hs first List.mem_cons_self, Bool.true_or]
    rw [groups_run_append hne hs right, numbered, hany]
    have hfirst := hs first List.mem_cons_self
    -- a run of one container takes a number, too, though nothing is merged
    cases others with
    | nil => exact .single hfirst right (sameStep_redirect renamed first) (ih (count + 1))
    | cons second others =>
      exact .merged hs right (mergedFrom_redirect renamed _ first _) (ih (count + 1))

/-! ### Stacking again -/

theorem SameStep.solutionContainer_eq (h : SameStep c s) :
    s.solutionContainer = c.solutionContainer := by
  rw [h]

theorem SameStep.mode_eq (h : SameStep c s) : s.mode = c.mode := by
  rw [h]
  rfl

theorem MergedFrom.solutionContainer_eq (h : MergedFrom number first run s) :
    s.solutionContainer = first.solutionContainer := by
  rw [h.like_first]

theorem MergedFrom.mode_eq (h : MergedFrom number first run s) :
    s.mode = some (joinedModes run) := by
  obtain ⟨bindings, he, -, hmode, -⟩ := h.bindings
  rw [Container.mode, he]
  exact hmode

theorem Replaced.head_plain (h : Replaced count containers stacked)
    (hc : ∀ c ∈ containers.head?, c.solutionContainer = false) :
    ∀ s ∈ stacked.head?, s.solutionContainer = false := by
  cases h with
  | nil => simp
  | plain hc hs => simpa [hs.solutionContainer_eq] using hc
  | single hsol => simp [hsol] at hc
  | merged hsol => simp [hsol] at hc

/-- No two solution containers follow each other where every run has become one container. -/
theorem Replaced.isChain (h : Replaced count containers stacked) :
    stacked.IsChain fun c d => (c.solutionContainer && d.solutionContainer) = false := by
  induction h with
  | nil => exact .nil
  | plain hc hs _ ih =>
    refine List.isChain_cons.2 ⟨fun d _ => ?_, ih⟩
    rw [hs.solutionContainer_eq, hc, Bool.false_and]
  | single _ right _ later ih | merged _ right _ later ih =>
    refine List.isChain_cons.2 ⟨fun d hd => ?_, ih⟩
    rw [later.head_plain right d hd, Bool.and_false]

theorem groups_of_isChain
    (h : containers.IsChain fun c d => (c.solutionContainer && d.solutionContainer) = false) :
    groups containers = containers.map ([·]) := by
  induction containers with
  | nil => rfl
  | cons c rest ih =>
    cases rest with
    | nil => rfl
    | cons d rest =>
      obtain ⟨hcd, h⟩ := List.isChain_cons_cons.1 h
      rw [groups_cons_cons, hcd, ih h]
      rfl

theorem flatMap_singletons {α : Type} {f : Nat × List Container → List α}
    {g : Container → List α} (hf : ∀ number c, f (number, [c]) = g c) (count : Nat)
    (containers : List Container) :
    (numbered count (containers.map ([·]))).flatMap f = containers.flatMap g := by
  induction containers generalizing count with
  | nil => rfl
  | cons c rest ih => rw [List.map_cons, numbered, List.flatMap_cons, hf, ih, List.flatMap_cons]

@[simp] theorem redirect_nil (c : Container) : redirect [] c = c := by
  unfold redirect
  split
  · rfl
  · simp [Table.get?]

/-- Where no two solution containers follow each other, there is nothing to stack. -/
theorem stack_of_isChain
    (h : containers.IsChain fun c d => (c.solutionContainer && d.solutionContainer) = false) :
    stack containers = containers := by
  have hblocks : blocks containers = numbered 0 (containers.map ([·])) := by
    rw [blocks, groups_of_isChain h]
  have hnames : newNames containers = [] := by
    rw [newNames, hblocks, flatMap_singletons (g := fun _ => []) (fun _ _ => rfl)]
    rw [List.flatMap_eq_nil_iff.2 fun _ _ => rfl]
    rfl
  rw [stack_eq, hnames, hblocks, flatMap_singletons (g := fun c => [c]) (fun _ _ => rfl),
    List.flatMap_singleton']
  exact List.map_id'' redirect_nil containers

/-! ### Modes -/

/-- Every solution container has a mode, in which no comma occurs. -/
def ModesPlain (containers : List Container) : Prop :=
  ∀ c ∈ containers, c.solutionContainer = true → ∃ mode ∈ c.mode, ',' ∉ mode.toList

instance : Decidable (ModesPlain containers) :=
  inferInstanceAs (Decidable (∀ c ∈ containers, _ → ∃ mode ∈ c.mode, _))

theorem ModesPlain.mono {others : List Container} (h : ModesPlain containers)
    (hs : others ⊆ containers) : ModesPlain others :=
  fun c hc => h c (hs hc)

theorem modes_eq_members (hmode : s.mode = some (joinedModes run)) (hne : run ≠ [])
    (hs : ∀ c ∈ run, c.solutionContainer = true) (hm : ModesPlain run) :
    s.modes.map some = run.map (·.mode) := by
  have hmode? : ∀ c ∈ run, ∃ mode, c.mode = some mode ∧ ',' ∉ mode.toList :=
    fun c hc => hm c hc (hs c hc)
  have hcomma : ∀ c ∈ run, ',' ∉ (c.mode.getD "").toList := by
    intro c hc
    obtain ⟨mode, he, hm⟩ := hmode? c hc
    rwa [he, Option.getD_some]
  rw [modes_of_joined hmode hne hcomma, List.map_map]
  refine List.map_congr_left fun c hc => ?_
  obtain ⟨mode, he, -⟩ := hmode? c hc
  rw [Function.comp_apply, he, Option.getD_some]

theorem filter_solution_append (hs : ∀ c ∈ run, c.solutionContainer = true) :
    (run ++ rest).filter (·.solutionContainer) = run ++ rest.filter (·.solutionContainer) := by
  rw [List.filter_append, List.filter_eq_self.2 hs]

/-- A container that runs the modes of a run, in front of those that run the later modes. -/
theorem modes_cons (hsol : s.solutionContainer = true)
    (hmode : s.mode = some (joinedModes run)) (hne : run ≠ [])
    (hs : ∀ c ∈ run, c.solutionContainer = true) (hm : ModesPlain (run ++ rest))
    (ih : ModesPlain rest → (stacked.filter (·.solutionContainer)).flatMap
        (fun s => s.modes.map some) = (rest.filter (·.solutionContainer)).map (·.mode)) :
    ((s :: stacked).filter (·.solutionContainer)).flatMap (fun s => s.modes.map some) =
      ((run ++ rest).filter (·.solutionContainer)).map (·.mode) := by
  rw [List.filter_cons_of_pos hsol, filter_solution_append hs, List.flatMap_cons,
    ih (hm.mono (List.subset_append_right _ _)), List.map_append,
    modes_eq_members hmode hne hs (hm.mono (List.subset_append_left _ _))]

/-- The stacked list runs the modes of the list in their order. -/
theorem Replaced.modes_eq (h : Replaced count containers stacked) (hm : ModesPlain containers) :
    (stacked.filter (·.solutionContainer)).flatMap (fun s => s.modes.map some) =
      (containers.filter (·.solutionContainer)).map (·.mode) := by
  induction h with
  | nil => rfl
  | plain hc hs _ ih =>
    have hsol := hs.solutionContainer_eq.trans hc
    rw [List.filter_cons_of_neg (Bool.eq_false_iff.1 hsol),
      List.filter_cons_of_neg (Bool.eq_false_iff.1 hc)]
    exact ih (hm.mono (List.subset_cons_self _ _))
  | @single _ c s _ _ hc _ hs _ ih =>
    obtain ⟨mode, he, -⟩ := hm c List.mem_cons_self hc
    -- the container that stays joins no more than its own mode
    have hmode : s.mode = some (joinedModes [c]) := by
      rw [hs.mode_eq, joinedModes]
      simp [Option.mem_def.1 he]
    exact @modes_cons _ [c] _ s (hs.solutionContainer_eq.trans hc) hmode
      (List.cons_ne_nil _ _) (by simpa using hc) hm ih
  | merged hsol _ hs _ ih =>
    exact modes_cons (hs.solutionContainer_eq.trans (hsol _ List.mem_cons_self)) hs.mode_eq
      (List.cons_ne_nil _ _) hsol hm ih

/-! ### Stacked lists -/

/-- Stacking puts one container in the place of each maximal run of solution containers and keeps
the others and the order of the modes. What is stacked already stays as it is. -/
theorem stack_replaces_runs (containers : List Container) :
    Replaced 0 containers (stack containers) ∧
      (ModesPlain containers →
        ((stack containers).filter (·.solutionContainer)).flatMap (fun s => s.modes.map some) =
          (containers.filter (·.solutionContainer)).map (·.mode)) ∧
      stack (stack containers) = stack containers := by
  have h : Replaced 0 containers (stack containers) :=
    replaced_groups (newNames containers) 0 containers
  exact ⟨h, h.modes_eq, stack_of_isChain h.isChain⟩

/-- Runs of one, two and three solution containers with other containers between them. -/
def unevenRuns : List Container :=
  let step (name mode : String) : Container := {
    name, image := "solution", solutionContainer := true
    envVars := some ⟨[(containerModeVariable, mode)], by simp [Table.names]⟩ }
  [step "prepare" "handle", { name := "send", image := "send" }, step "validate" "check",
    step "preRun" "before", { name := "fetch", image := "fetch" }, step "run" "run",
    step "postRun" "after", step "report" "report"]

theorem unevenRuns_replaced : ModesPlain unevenRuns ∧
    (stack unevenRuns).map (·.name) =
      ["prepare", "send", mergedName 2, "fetch", mergedName 3] ∧
    ((stack unevenRuns).filter (·.solutionContainer)).flatMap (fun s => s.modes.map some) =
      [some "handle", some "check", some "before", some "run", some "after", some "report"] ∧
    stack (stack unevenRuns) = stack unevenRuns := by
  have hplain : ModesPlain unevenRuns := by decide +kernel
  obtain ⟨-, hmodes, hstable⟩ := stack_replaces_runs unevenRuns
  exact ⟨hplain, by decide +kernel, hmodes hplain, hstable⟩

end ScenarioCompiler.Stack
