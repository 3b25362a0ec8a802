import ScenarioCompiler.Proofs.Pipeline.Linking
import ScenarioCompiler.Proofs.Pointwise

namespace ScenarioCompiler

open Stack

/-- A relation between the containers of two runs that keeps the shape of a run and that waiting
for other names and merging respect. -/
structure Container.Congruence (R : Container → Container → Prop) : Prop where
  name : ∀ {c d}, R c d → d.name = c.name
  dependencies : ∀ {c d}, R c d → d.dependencies = c.dependencies
  solutionContainer : ∀ {c d}, R c d → d.solutionContainer = c.solutionContainer
  waiting : ∀ {c d} (names : Option (List String)), R c d →
    R { c with dependencies := names } { d with dependencies := names }
  merged : ∀ {c d cs ds} (number : Nat), List.Forall₂ R (c :: cs) (d :: ds) →
    (∀ x ∈ c :: cs, x.solutionContainer = true) →
      R (merged number c (c :: cs)) (merged number d (d :: ds))

variable {R : Container → Container → Prop} {containers others : List Container}

theorem Container.Congruence.names_eq (hR : Container.Congruence R)
    (h : List.Forall₂ R containers others) :
    others.map (·.name) = containers.map (·.name) := by
  induction h with
  | nil => rfl
  | cons hcd _ ih => rw [List.map_cons, List.map_cons, hR.name hcd, ih]

/-! ### Stacking -/

namespace Stack

open Container

variable (hR : Congruence R)

include hR

theorem groups_congr (h : List.Forall₂ R containers others) :
    List.Forall₂ (List.Forall₂ R) (groups containers) (groups others) := by
  induction h with
  | nil => exact .nil
  | @cons c d cs ds hcd _ ih =>
    rw [groups, groups]
    generalize groups cs = gs at ih ⊢
    generalize groups ds = hs at ih ⊢
    cases ih with
    | nil => exact .cons (.cons hcd .nil) .nil
    | cons hfirst hrest =>
      cases hfirst with
      | nil => exact .cons (.cons hcd .nil) (.cons .nil hrest)
      | cons hxy htail =>
        dsimp only
        rw [hR.solutionContainer hcd, hR.solutionContainer hxy]
        split
        · exact .cons (.cons hcd (.cons hxy htail)) hrest
        · exact .cons (.cons hcd .nil) (.cons (.cons hxy htail) hrest)

theorem any_solution_congr (h : List.Forall₂ R containers others) :
    others.any (·.solutionContainer) = containers.any (·.solutionContainer) := by
  induction h with
  | nil => rfl
  | cons hcd _ ih => rw [List.any_cons, List.any_cons, hR.solutionContainer hcd, ih]

theorem numbered_congr {gs hs : List (List Container)} (h : List.Forall₂ (List.Forall₂ R) gs hs)
    (count : Nat) : List.Forall₂ (fun p q => q.1 = p.1 ∧ List.Forall₂ R p.2 q.2)
      (numbered count gs) (numbered count hs) := by
  induction h generalizing count with
  | nil => exact .nil
  | cons hg _ ih =>
    rw [numbered, numbered, any_solution_congr hR hg]
    exact .cons ⟨rfl, hg⟩ (ih _)

/-- Related runs are split into the same groups; those that are merged have solution containers
only. -/
theorem blocks_congr (h : List.Forall₂ R containers others) :
    List.Forall₂ (fun p q => (1 < p.2.length → ∀ c ∈ p.2, c.solutionContainer = true) ∧
      q.1 = p.1 ∧ List.Forall₂ R p.2 q.2) (blocks containers) (blocks others) :=
  (List.forall₂_and_left _ _).2 ⟨fun _ hp hl _ hc => solution_of_block hp hl hc,
    numbered_congr hR (groups_congr hR h) 0⟩

theorem renamedMembers_congr {p q : Nat × List Container} (hn : q.1 = p.1)
    (h : List.Forall₂ R p.2 q.2) : renamedMembers q = renamedMembers p := by
  obtain ⟨number, members⟩ := p
  obtain ⟨other, others⟩ := q
  obtain rfl : other = number := hn
  have hnames := hR.names_eq h
  cases h with
  | nil => rfl
  | cons _ hrest =>
    cases hrest with
    | nil => rfl
    | cons _ _ =>
      rw [renamedMembers, renamedMembers]
      · simpa [Function.comp_def] using
          congrArg (List.map fun name => (name, mergedName other)) hnames
      all_goals simp

theorem newNames_congr (h : List.Forall₂ R containers others) :
    newNames others = newNames containers := by
  have hnames : List.Forall₂ (· = ·) ((blocks others).flatMap renamedMembers)
      ((blocks containers).flatMap renamedMembers) := by
    refine List.rel_flatMap (blocks_congr hR h).flip fun _ _ hpq => ?_
    rw [renamedMembers_congr hR hpq.2.1 hpq.2.2]
    exact List.forall₂_refl _
  rw [List.forall₂_eq_eq_eq] at hnames
  rw [newNames, newNames, hnames]

theorem redirect_congr {c d : Container} (renamed : Table String) (h : R c d) :
    R (redirect renamed c) (redirect renamed d) := by
  unfold redirect
  rw [hR.dependencies h]
  split
  · exact h
  · split
    · exact hR.waiting _ h
    · exact h

theorem ofGroup_congr {p q : Nat × List Container}
    (hs : 1 < p.2.length → ∀ c ∈ p.2, c.solutionContainer = true) (hn : q.1 = p.1)
    (h : List.Forall₂ R p.2 q.2) : List.Forall₂ R (ofGroup p) (ofGroup q) := by
  obtain ⟨number, members⟩ := p
  obtain ⟨other, others⟩ := q
  obtain rfl : other = number := hn
  cases h with
  | nil => exact .nil
  | cons hcd hrest =>
    cases hrest with
    | nil => exact .cons hcd .nil
    | cons hxy htail =>
      exact .cons (hR.merged other (.cons hcd (.cons hxy htail)) (hs (by simp))) .nil

/-- Stacking related runs gives related runs. -/
theorem stack_congr (h : List.Forall₂ R containers others) :
    List.Forall₂ R (stack containers) (stack others) := by
  have hmerged : List.Forall₂ R ((blocks containers).flatMap ofGroup)
      ((blocks others).flatMap ofGroup) :=
    List.rel_flatMap (blocks_congr hR h) fun _ _ hpq => ofGroup_congr hR hpq.1 hpq.2.1 hpq.2.2
  rw [stack_eq, stack_eq, newNames_congr hR h, List.forall₂_map_left_iff,
    List.forall₂_map_right_iff]
  exact hmerged.imp fun _ _ hcd => redirect_congr hR _ hcd

end Stack

/-! ### Linking -/

namespace Stage

variable {frontier : List String} {stages changed : List (Stage Compile)}

/-- Two stages that are linked in the same way and whose containers are related. -/
structure Matches (R : Container → Container → Prop) (stage other : Stage Compile) : Prop where
  enabled : other.enabled = stage.enabled
  advancesFrontier : other.advancesFrontier = stage.advancesFrontier
  rootWhenFirst : other.rootWhenFirst = stage.rootWhenFirst
  built : ∀ dependencies cs ds, (stage.build dependencies).outcome = .ok cs →
    (other.build dependencies).outcome = .ok ds → List.Forall₂ R cs ds

variable (hR : Container.Congruence R)

include hR

/-- Linking related stages gives related runs. -/
theorem Linked.congr (h : Linked frontier stages containers) (h' : Linked frontier changed others)
    (hs : List.Forall₂ (Matches R) stages changed) : List.Forall₂ R containers others := by
  induction h generalizing changed others with
  | nil =>
    cases hs
    cases h'
    exact .nil
  | skip hoff _ ih =>
    cases hs with
    | cons hm hrest =>
      cases h' with
      | skip _ hl => exact ih hl hrest
      | build hon _ _ => simp [hm.enabled, hoff] at hon
  | @build frontier stage _ built _ hon hb _ ih =>
    cases hs with
    | @cons _ other _ _ hm hrest =>
      have hdependencies : other.dependencies frontier = stage.dependencies frontier := by
        rw [dependencies, dependencies, hm.rootWhenFirst]
      cases h' with
      | skip hoff _ => simp [hm.enabled, hon] at hoff
      | build _ hb' hl =>
        rw [hdependencies] at hb'
        have hbuilt := hm.built _ _ _ hb hb'
        refine List.rel_append hbuilt (ih ?_ hrest)
        -- a frontier is made of names, which related containers have in common
        have hfrontier : ∀ bs, List.Forall₂ R built bs →
            other.frontierAfter frontier bs = stage.frontierAfter frontier built := by
          intro bs hbs
          have hnil : bs.isEmpty = built.isEmpty := by cases hbs <;> rfl
          rw [frontierAfter, frontierAfter, hm.advancesFrontier, hnil, hR.names_eq hbs]
        rwa [hfrontier _ hbuilt] at hl

end Stage

end ScenarioCompiler
