import Mathlib.Data.List.DropRight
import ScenarioCompiler.Proofs.Pipeline.Stacking

namespace ScenarioCompiler.Stack

variable {containers before run after : List Container} {c : Container}

/-! ### Maximal runs -/

/-- Two parts of a list that no run of solution containers crosses. -/
def Parted (before after : List Container) : Prop :=
  ∀ x ∈ before.getLast?, ∀ y ∈ after.head?, x.solutionContainer = true →
    y.solutionContainer = false

/-- A maximal run of solution containers between the two other parts of a list. -/
structure IsRun (containers before run after : List Container) : Prop where
  split : containers = before ++ run ++ after
  ne_nil : run ≠ []
  solution : ∀ c ∈ run, c.solutionContainer = true
  left : ∀ c ∈ before.getLast?, c.solutionContainer = false
  right : ∀ c ∈ after.head?, c.solutionContainer = false

/-- The number of maximal runs of solution containers, each counted at its last member. -/
def runCount : List Container → Nat
  | [] => 0
  | c :: rest =>
    runCount rest + if c.solutionContainer && !rest.head?.any (·.solutionContainer) then 1 else 0

/-- Every solution container is in a maximal run. -/
theorem exists_run (hc : c ∈ containers) (hs : c.solutionContainer = true) :
    ∃ before run after, IsRun containers before run after ∧ c ∈ run := by
  obtain ⟨front, back, rfl⟩ := List.append_of_mem hc
  let p : Container → Bool := (·.solutionContainer)
  refine ⟨front.rdropWhile p, front.rtakeWhile p ++ c :: back.takeWhile p, back.dropWhile p,
    ⟨?_, by simp, ?_, ?_, ?_⟩, by simp⟩
  · calc front ++ c :: back
        = (front.rdropWhile p ++ front.rtakeWhile p) ++
            c :: (back.takeWhile p ++ back.dropWhile p) := by
          rw [List.rdropWhile_append_rtakeWhile, List.takeWhile_append_dropWhile]
      _ = _ := by simp only [List.append_assoc, List.cons_append]
  · intro x hx
    rcases List.mem_append.1 hx with hx | hx
    · exact List.mem_rtakeWhile_imp hx
    · rcases List.mem_cons.1 hx with rfl | hx
      · exact hs
      · exact List.mem_takeWhile_imp hx
  · intro x hx
    obtain ⟨hne, rfl⟩ := List.mem_getLast?_eq_getLast hx
    exact Bool.eq_false_iff.2 (List.rdropWhile_last_not p front hne)
  · intro x hx
    simpa [p, Option.mem_def.1 hx] using List.head?_dropWhile_not p back

/-! ### Runs as groups -/

theorem exists_groups_cons (c : Container) (rest : List Container) :
    ∃ group others, groups (c :: rest) = (c :: group) :: others := by
  rw [groups]
  split
  · split
    · exact ⟨_, _, rfl⟩
    · exact ⟨_, _, rfl⟩
  · exact ⟨_, _, rfl⟩

/-- A container joins the group after it where both are solution containers. -/
theorem groups_cons_cons (c d : Container) (rest : List Container) :
    groups (c :: d :: rest) =
      if c.solutionContainer && d.solutionContainer then
        (groups (d :: rest)).modifyHead (c :: ·)
      else [c] :: groups (d :: rest) := by
  obtain ⟨group, others, h⟩ := exists_groups_cons d rest
  rw [groups, h]
  dsimp only
  split <;> rfl

theorem groups_append (h : Parted before after) :
    groups (before ++ after) = groups before ++ groups after := by
  induction before with
  | nil => rfl
  | cons c rest ih =>
    cases rest with
    | nil =>
      cases after with
      | nil => rfl
      | cons d after =>
        -- no group reaches across, since not both neighbours run the solution
        have hcd : (c.solutionContainer && d.solutionContainer) = false := by
          cases hc : c.solutionContainer with
          | false => rfl
          | true => rw [Bool.true_and, h c rfl d rfl hc]
        rw [List.singleton_append, groups_cons_cons, hcd]
        rfl
    | cons d rest =>
      have ih := ih h
      rw [List.cons_append, List.cons_append, groups_cons_cons, groups_cons_cons,
        ← List.cons_append, ih]
      obtain ⟨group, others, hg⟩ := exists_groups_cons d rest
      rw [hg]
      split <;> rfl

theorem groups_of_solution (hne : run ≠ []) (hs : ∀ c ∈ run, c.solutionContainer = true) :
    groups run = [run] := by
  induction run with
  | nil => exact absurd rfl hne
  | cons c rest ih =>
    cases rest with
    | nil => rfl
    | cons d rest =>
      have hrest := fun x hx => hs x (List.mem_cons_of_mem _ hx)
      rw [groups_cons_cons, ih (List.cons_ne_nil _ _) hrest, hs c List.mem_cons_self,
        hrest d List.mem_cons_self]
      rfl

theorem countP_groups (containers : List Container) :
    (groups containers).countP (·.any (·.solutionContainer)) = runCount containers := by
  induction containers with
  | nil => rfl
  | cons c rest ih =>
    cases rest with
    | nil => cases hc : c.solutionContainer <;> simp [groups, runCount, hc]
    | cons d rest =>
      obtain ⟨group, others, hg⟩ := exists_groups_cons d rest
      rw [runCount, ← ih, groups_cons_cons, hg]
      cases hc : c.solutionContainer <;> cases hd : d.solutionContainer <;>
        simp [List.countP_cons, hc, hd]

/-! ### Numbers of runs -/

theorem numbered_append (count : Nat) (gs hs : List (List Container)) :
    numbered count (gs ++ hs) =
      numbered count gs ++ numbered (count + gs.countP (·.any (·.solutionContainer))) hs := by
  induction gs generalizing count with
  | nil => rfl
  | cons g gs ih =>
    rw [List.cons_append, numbered, numbered, ih, List.cons_append, List.countP_cons]
    congr 3
    split <;> omega

theorem number_le {count : Nat} {gs : List (List Container)} {p : Nat × List Container}
    (h : p ∈ numbered count gs) : p.1 ≤ count + gs.countP (·.any (·.solutionContainer)) := by
  induction gs generalizing count with
  | nil => simp [numbered] at h
  | cons g gs ih =>
    rw [numbered] at h
    rw [List.countP_cons]
    rcases List.mem_cons.1 h with rfl | h
    · dsimp only
      split <;> omega
    · have hle := ih h
      by_cases hs : g.any (·.solutionContainer)
      · rw [if_pos hs] at hle
        rw [if_pos hs]
        omega
      · rw [if_neg hs] at hle
        rw [if_neg hs]
        omega

/-- A maximal run is a group, and its number is one more than there are runs before it. -/
theorem IsRun.mem_blocks (h : IsRun containers before run after) :
    (runCount before + 1, run) ∈ blocks containers := by
  have hright : Parted run after := fun _ _ y hy _ => h.right y hy
  have hleft : Parted before (run ++ after) := by
    intro x hx _ _ hs
    rw [h.left x hx] at hs
    contradiction
  have hany : run.any (·.solutionContainer) = true := by
    obtain ⟨c, hc⟩ := List.exists_mem_of_ne_nil run h.ne_nil
    exact List.any_eq_true.2 ⟨c, hc, h.solution c hc⟩
  rw [blocks, h.split, List.append_assoc, groups_append hleft, groups_append hright,
    groups_of_solution h.ne_nil h.solution, numbered_append, countP_groups, Nat.zero_add,
    List.singleton_append, numbered, hany]
  exact List.mem_append_right _ List.mem_cons_self

end ScenarioCompiler.Stack
