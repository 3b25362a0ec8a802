import Mathlib.Data.List.Nodup
import Mathlib.Data.List.Pairwise
import ScenarioCompiler.Pipeline.Stack
import ScenarioCompiler.Proofs.ContainerName
import ScenarioCompiler.Proofs.Pipeline.DependencyGraph
import ScenarioCompiler.Proofs.Table

namespace ScenarioCompiler.Stack

open DependencyGraph

variable {containers : List Container}

/-- The groups of a list with their numbers. -/
def blocks (containers : List Container) : List (Nat × List Container) :=
  numbered 0 (groups containers)

/-- The new names of all merged containers. -/
def newNames (containers : List Container) : Table String :=
  Table.ofEntries ((blocks containers).flatMap renamedMembers)

/-- The name of the container that takes the place of the one with the given name. -/
def newName (containers : List Container) (name : String) : String :=
  (Table.get? (newNames containers) name).getD name

/-- The container that takes the place of a group with the given first member. -/
def standIn (number : Nat) (first : Container) (rest : List Container) : Container :=
  if rest = [] then first else merged number first (first :: rest)

theorem stack_eq (containers : List Container) :
    stack containers = ((blocks containers).flatMap ofGroup).map (redirect (newNames containers)) :=
  rfl

theorem ofGroup_cons (number : Nat) (first : Container) (rest : List Container) :
    ofGroup (number, first :: rest) = [standIn number first rest] := by
  cases rest <;> rfl

@[simp] theorem standIn_dependencies (number : Nat) (first : Container) (rest : List Container) :
    (standIn number first rest).dependencies = first.dependencies := by
  unfold standIn
  split <;> rfl

@[simp] theorem standIn_waitsFor (number : Nat) (first : Container) (rest : List Container) :
    (standIn number first rest).waitsFor = first.waitsFor := by
  simp [Container.waitsFor]

theorem standIn_name (number : Nat) (first : Container) (rest : List Container) :
    (standIn number first rest).name = if rest = [] then first.name else mergedName number := by
  unfold standIn
  split <;> rfl

/-! ### Groups -/

theorem flatten_groups (containers : List Container) :
    (groups containers).flatten = containers := by
  induction containers with
  | nil => rfl
  | cons c rest ih =>
    rw [groups]
    split
    · rename_i d group others h
      rw [h] at ih
      split
      · rw [List.flatten_cons, List.cons_append, ← List.flatten_cons, ih]
      · rw [List.flatten_cons, ih, List.singleton_append]
    · rw [List.flatten_cons, ih, List.singleton_append]

/-- No group is empty, and one of two or more containers has only solution containers. -/
theorem group_shape {group : List Container} (h : group ∈ groups containers) :
    group ≠ [] ∧ (1 < group.length → ∀ c ∈ group, c.solutionContainer = true) := by
  induction containers generalizing group with
  | nil => simp [groups] at h
  | cons c rest ih =>
    rw [groups] at h
    split at h
    · rename_i d ds others hg
      rw [hg] at ih
      have hd := ih List.mem_cons_self
      -- `c` joins the first group of the rest only if it and the first member run the solution
      split at h
      · rename_i hs
        rw [Bool.and_eq_true] at hs
        rcases List.mem_cons.1 h with rfl | h
        · refine ⟨by simp, fun _ x hx => ?_⟩
          rcases List.mem_cons.1 hx with rfl | hx
          · exact hs.1
          · cases ds with
            | nil => simpa [List.mem_singleton.1 hx] using hs.2
            | cons e es => exact hd.2 (by simp) x hx
        · exact ih (List.mem_cons_of_mem _ h)
      · rcases List.mem_cons.1 h with rfl | h
        · simp
        · exact ih h
    · rcases List.mem_cons.1 h with rfl | h
      · simp
      · exact ih h

/-! ### Numbers -/

theorem map_numbered (count : Nat) (gs : List (List Container)) :
    (numbered count gs).map Prod.snd = gs := by
  induction gs generalizing count with
  | nil => rfl
  | cons g rest ih => simp [numbered, ih]

theorem lt_number {count : Nat} {gs : List (List Container)} {p : Nat × List Container}
    (h : p ∈ numbered count gs) :
    count ≤ p.1 ∧ (p.2.any (·.solutionContainer) → count < p.1) := by
  induction gs generalizing count with
  | nil => simp [numbered] at h
  | cons g rest ih =>
    simp only [numbered, List.mem_cons] at h
    by_cases hs : g.any (·.solutionContainer)
    · simp only [hs, if_true] at h
      rcases h with rfl | h
      · simp
      · have := (ih h).1
        exact ⟨by omega, fun _ => by omega⟩
    · simp only [hs] at h
      rcases h with rfl | h
      · simp [hs]
      · exact ih h

/-- Every run of solution containers has a greater number than all groups before it. -/
theorem numbered_pairwise (count : Nat) (gs : List (List Container)) :
    (numbered count gs).Pairwise fun p q => q.2.any (·.solutionContainer) → p.1 < q.1 := by
  induction gs generalizing count with
  | nil => simp [numbered]
  | cons g rest ih =>
    rw [numbered]
    exact List.pairwise_cons.2 ⟨fun q hq => (lt_number hq).2, ih _⟩

/-! ### Blocks -/

variable {p q : Nat × List Container} {c : Container}

theorem snd_mem_groups (h : p ∈ blocks containers) : p.2 ∈ groups containers := by
  rw [← map_numbered 0 (groups containers)]
  exact List.mem_map_of_mem h

theorem flatMap_blocks (containers : List Container) :
    (blocks containers).flatMap Prod.snd = containers := by
  rw [List.flatMap, blocks, map_numbered, flatten_groups]

theorem exists_block (h : c ∈ containers) : ∃ p ∈ blocks containers, c ∈ p.2 := by
  rw [← flatMap_blocks containers] at h
  exact List.mem_flatMap.1 h

theorem block_split (h : p ∈ blocks containers) :
    ∃ before after, containers = before ++ p.2 ++ after := by
  obtain ⟨first, last, hb⟩ := List.append_of_mem h
  refine ⟨first.flatMap Prod.snd, last.flatMap Prod.snd, ?_⟩
  rw [← flatMap_blocks containers, hb, List.flatMap_append, List.flatMap_cons, List.append_assoc]

theorem mem_of_block (h : p ∈ blocks containers) (hc : c ∈ p.2) : c ∈ containers := by
  obtain ⟨before, after, he⟩ := block_split h
  rw [he]
  exact List.mem_append_left _ (List.mem_append_right _ hc)

theorem exists_first (h : p ∈ blocks containers) :
    ∃ number first rest, p = (number, first :: rest) := by
  obtain ⟨number, _ | ⟨first, rest⟩⟩ := p
  · exact absurd rfl (group_shape (snd_mem_groups h)).1
  · exact ⟨number, first, rest, rfl⟩

theorem solution_of_block (h : p ∈ blocks containers) (hl : 1 < p.2.length) (hc : c ∈ p.2) :
    c.solutionContainer = true :=
  (group_shape (snd_mem_groups h)).2 hl c hc

/-- Two groups without a common member, and without a common number where both are merged. -/
def Apart (p q : Nat × List Container) : Prop :=
  List.Disjoint p.2 q.2 ∧ (1 < p.2.length → 1 < q.2.length → p.1 ≠ q.1)

instance : Std.Symm Apart where
  symm _ _ h := ⟨fun _ hq hp => h.1 hp hq, fun hq hp => (h.2 hp hq).symm⟩

theorem blocks_pairwise (hd : containers.Nodup) : (blocks containers).Pairwise Apart := by
  have hg : (blocks containers).Pairwise fun p q => List.Disjoint p.2 q.2 := by
    rw [← flatMap_blocks containers, List.nodup_flatMap] at hd
    exact hd.2
  refine (hg.and (numbered_pairwise 0 (groups containers))).imp_of_mem ?_
  intro p q _ hq ⟨hdis, hnum⟩
  refine ⟨hdis, fun _ hl => Nat.ne_of_lt (hnum ?_)⟩
  obtain ⟨number, first, rest, rfl⟩ := exists_first hq
  have hf : first ∈ first :: rest := List.mem_cons_self
  exact List.any_eq_true.2 ⟨first, hf, solution_of_block hq hl hf⟩

/-- A container is in one group only. -/
theorem block_unique (hd : containers.Nodup) (hp : p ∈ blocks containers)
    (hq : q ∈ blocks containers) (hcp : c ∈ p.2) (hcq : c ∈ q.2) : p = q := by
  by_contra hne
  exact ((blocks_pairwise hd).forall hp hq hne).1 hcp hcq

/-- Merged groups have numbers of their own. -/
theorem number_unique (hd : containers.Nodup) (hp : p ∈ blocks containers)
    (hq : q ∈ blocks containers) (hlp : 1 < p.2.length) (hlq : 1 < q.2.length)
    (h : p.1 = q.1) : p = q := by
  by_contra hne
  exact ((blocks_pairwise hd).forall hp hq hne).2 hlp hlq h

/-! ### New names -/

/-- No container has the name of the root or the one that a merged container gets. -/
def Unreserved (containers : List Container) : Prop :=
  ∀ c ∈ containers, c.name ≠ rootDependency ∧
    ∀ p ∈ blocks containers, 1 < p.2.length → c.name ≠ mergedName p.1

theorem mem_renamedMembers {entry : String × String} :
    entry ∈ renamedMembers p ↔
      1 < p.2.length ∧ ∃ c ∈ p.2, (c.name, mergedName p.1) = entry := by
  rcases p with ⟨number, _ | ⟨first, _ | ⟨second, rest⟩⟩⟩
  · simp [renamedMembers]
  · simp [renamedMembers]
  · rw [renamedMembers, List.mem_map]
    · simp
    · simp
    · simp

theorem names_renamedMembers_sublist (p : Nat × List Container) :
    ((renamedMembers p).map Prod.fst).Sublist (p.2.map (·.name)) := by
  rcases p with ⟨number, _ | ⟨first, _ | ⟨second, rest⟩⟩⟩
  · exact List.nil_sublist _
  · exact List.nil_sublist _
  · simp [renamedMembers, Function.comp_def]

theorem newNames_eq (hn : (containers.map (·.name)).Nodup) :
    newNames containers = (blocks containers).flatMap renamedMembers := by
  apply Table.ofEntries_eq_self
  have hs : (Table.names ((blocks containers).flatMap renamedMembers)).Sublist
      (((blocks containers).flatMap Prod.snd).map (·.name)) := by
    rw [Table.names, List.map_flatMap, List.map_flatMap]
    induction blocks containers with
    | nil => exact List.nil_sublist _
    | cons p rest ih => exact (names_renamedMembers_sublist p).append ih
  rw [flatMap_blocks] at hs
  exact hn.sublist hs

theorem get?_newNames_eq_some (hn : (containers.map (·.name)).Nodup) {name new : String}
    (h : Table.get? (newNames containers) name = some new) :
    ∃ p ∈ blocks containers, 1 < p.2.length ∧ new = mergedName p.1 ∧ ∃ c ∈ p.2, c.name = name := by
  have hm := Table.mem_of_get?_eq_some h
  rw [newNames_eq hn] at hm
  obtain ⟨p, hp, he⟩ := List.mem_flatMap.1 hm
  obtain ⟨hl, c, hc, he⟩ := mem_renamedMembers.1 he
  obtain ⟨hname, hnew⟩ := Prod.mk.inj he
  exact ⟨p, hp, hl, hnew.symm, c, hc, hname⟩

/-- The members of a group get the name of the container that takes its place. -/
theorem newName_of_block (hn : (containers.map (·.name)).Nodup) {number : Nat}
    {first : Container} {rest : List Container} (hp : (number, first :: rest) ∈ blocks containers)
    (hc : c ∈ first :: rest) :
    newName containers c.name = (standIn number first rest).name := by
  rw [standIn_name, newName]
  split
  · rename_i hr
    subst hr
    obtain rfl := List.mem_singleton.1 hc
    -- an entry for the name would come from a group of two or more with the same member
    cases hg : Table.get? (newNames containers) c.name with
    | none => rfl
    | some new =>
      obtain ⟨q, hq, hl, -, d, hd, hname⟩ := get?_newNames_eq_some hn hg
      have hdc : d = c := List.inj_on_of_nodup_map hn (mem_of_block hq hd)
        (mem_of_block hp List.mem_cons_self) hname
      have hpq := block_unique hn.of_map hq hp (hdc ▸ hd) List.mem_cons_self
      simp [hpq] at hl
  · rename_i hr
    have hl : 1 < (first :: rest).length := by
      have := List.length_pos_iff.2 hr
      simpa using this
    have hm : (c.name, mergedName number) ∈ newNames containers := by
      rw [newNames_eq hn]
      exact List.mem_flatMap.2 ⟨_, hp, mem_renamedMembers.2 ⟨hl, c, hc, rfl⟩⟩
    have hd : (Table.names (newNames containers)).Nodup :=
      Table.nodup_names_putAll (by simp [Table.names]) _
    rw [Table.get?_of_mem hd hm, Option.getD_some]

theorem newName_eq_self (hn : (containers.map (·.name)).Nodup) {name : String}
    (h : name ∉ containers.map (·.name)) : newName containers name = name := by
  rw [newName]
  cases hg : Table.get? (newNames containers) name with
  | none => rfl
  | some new =>
    obtain ⟨p, hp, -, -, c, hc, hname⟩ := get?_newNames_eq_some hn hg
    exact absurd (hname ▸ List.mem_map_of_mem (mem_of_block hp hc)) h

theorem newName_eq_root (hn : (containers.map (·.name)).Nodup) (hu : Unreserved containers)
    {name : String} : newName containers name = rootDependency ↔ name = rootDependency := by
  constructor
  · intro h
    rw [newName] at h
    cases hg : Table.get? (newNames containers) name with
    | none => simpa [hg] using h
    | some new =>
      obtain ⟨p, -, -, hnew, -⟩ := get?_newNames_eq_some hn hg
      rw [hg, Option.getD_some, hnew] at h
      exact absurd h (mergedName_ne_root p.1)
  · rintro rfl
    refine newName_eq_self hn fun hm => ?_
    obtain ⟨c, hc, he⟩ := List.mem_map.1 hm
    exact (hu c hc).1 he

/-- Containers of different groups are replaced by containers of different names. -/
theorem standIn_name_injective (hn : (containers.map (·.name)).Nodup) (hu : Unreserved containers)
    {m n : Nat} {x y : Container} {xs ys : List Container}
    (hp : (m, x :: xs) ∈ blocks containers) (hq : (n, y :: ys) ∈ blocks containers)
    (h : (standIn m x xs).name = (standIn n y ys).name) : (m, x :: xs) = (n, y :: ys) := by
  have length_pos {c : Container} {cs : List Container} (hcs : cs ≠ []) :
      1 < (c :: cs).length := by simpa using List.length_pos_iff.2 hcs
  have hx := mem_of_block hp List.mem_cons_self
  have hy := mem_of_block hq List.mem_cons_self
  rw [standIn_name, standIn_name] at h
  split at h <;> split at h
  · have hxy : x = y := List.inj_on_of_nodup_map hn hx hy h
    exact block_unique hn.of_map hp hq List.mem_cons_self (hxy ▸ List.mem_cons_self)
  · rename_i hys
    exact absurd h ((hu x hx).2 (n, y :: ys) hq (length_pos hys))
  · rename_i hxs _
    exact absurd h.symm ((hu y hy).2 (m, x :: xs) hp (length_pos hxs))
  · rename_i hxs hys
    exact number_unique hn.of_map hp hq (length_pos hxs) (length_pos hys) (mergedName_injective h)

/-! ### The stacked list -/

theorem mem_stack {s : Container} :
    s ∈ stack containers ↔ ∃ number first rest, (number, first :: rest) ∈ blocks containers ∧
      s = redirect (newNames containers) (standIn number first rest) := by
  rw [stack_eq, List.mem_map]
  constructor
  · rintro ⟨t, ht, rfl⟩
    obtain ⟨p, hp, ht⟩ := List.mem_flatMap.1 ht
    obtain ⟨number, first, rest, rfl⟩ := exists_first hp
    rw [ofGroup_cons, List.mem_singleton] at ht
    exact ⟨number, first, rest, hp, by rw [ht]⟩
  · rintro ⟨number, first, rest, hp, rfl⟩
    refine ⟨standIn number first rest, List.mem_flatMap.2 ⟨_, hp, ?_⟩, rfl⟩
    rw [ofGroup_cons]
    exact List.mem_singleton_self _

/-- Only the dependencies of a redirected container change. -/
theorem exists_redirect_eq (renamed : Table String) (c : Container) :
    ∃ dependencies, redirect renamed c = { c with dependencies } := by
  unfold redirect
  split
  · exact ⟨c.dependencies, rfl⟩
  · split
    · exact ⟨_, rfl⟩
    · exact ⟨c.dependencies, rfl⟩

@[simp] theorem redirect_name (renamed : Table String) (c : Container) :
    (redirect renamed c).name = c.name := by
  obtain ⟨dependencies, h⟩ := exists_redirect_eq renamed c
  rw [h]

/-- A redirected container waits for the renamed containers, under their new names. -/
theorem mem_redirect_dependencies {renamed : Table String} {d : String} :
    d ∈ (redirect renamed c).dependencies.getD [] ↔
      ∃ e ∈ c.dependencies.getD [], (Table.get? renamed e).getD e = d := by
  unfold redirect
  cases hc : c.dependencies with
  | none => simp [hc]
  | some dependencies =>
    by_cases hr : dependencies.any fun d => (Table.get? renamed d).isSome
    · simp [hr]
    · have hk : ∀ e ∈ dependencies, (Table.get? renamed e).getD e = e := by
        intro e he
        have := List.any_eq_false.1 (Bool.eq_false_iff.2 hr) e he
        simp [Option.not_isSome_iff_eq_none.1 this]
      simp only [hr, Bool.false_eq_true, if_false, hc, Option.getD_some]
      constructor
      · exact fun hd => ⟨d, hd, hk d hd⟩
      · rintro ⟨e, he, rfl⟩
        rwa [hk e he]

theorem mem_redirect_waitsFor (hn : (containers.map (·.name)).Nodup) (hu : Unreserved containers)
    {d : String} :
    d ∈ (redirect (newNames containers) c).waitsFor ↔
      ∃ e ∈ c.waitsFor, newName containers e = d := by
  simp only [Container.mem_waitsFor, mem_redirect_dependencies]
  constructor
  · rintro ⟨⟨e, he, rfl⟩, hroot⟩
    exact ⟨e, ⟨he, fun h => hroot ((newName_eq_root hn hu).2 h)⟩, rfl⟩
  · rintro ⟨e, ⟨he, hroot⟩, rfl⟩
    exact ⟨⟨e, he, rfl⟩, fun h => hroot ((newName_eq_root hn hu).1 h)⟩

/-- Stacking gives no names but those of the list and those of merged containers. -/
theorem name_of_mem_stack {s : Container} (h : s ∈ stack containers) :
    (∃ c ∈ containers, s.name = c.name) ∨ ∃ number, s.name = mergedName number := by
  obtain ⟨number, first, rest, hp, rfl⟩ := mem_stack.1 h
  rw [redirect_name, standIn_name]
  split
  · exact .inl ⟨first, mem_of_block hp List.mem_cons_self, rfl⟩
  · exact .inr ⟨number, rfl⟩

theorem names_stack (containers : List Container) :
    (stack containers).map (·.name) = ((blocks containers).flatMap ofGroup).map (·.name) := by
  rw [stack_eq, List.map_map]
  exact List.map_congr_left fun c _ => redirect_name _ c

theorem names_stack_nodup (hn : (containers.map (·.name)).Nodup) (hu : Unreserved containers) :
    ((stack containers).map (·.name)).Nodup := by
  rw [names_stack, List.map_flatMap, List.nodup_flatMap]
  constructor
  · intro p hp
    obtain ⟨number, first, rest, rfl⟩ := exists_first hp
    rw [ofGroup_cons]
    exact List.nodup_singleton _
  · refine (blocks_pairwise hn.of_map).imp_of_mem fun {p q} hp hq hapart => ?_
    obtain ⟨m, x, xs, rfl⟩ := exists_first hp
    obtain ⟨n, y, ys, rfl⟩ := exists_first hq
    intro name hpn hqn
    simp only [ofGroup_cons, List.map_singleton, List.mem_singleton] at hpn hqn
    have hpq := standIn_name_injective hn hu hp hq (hpn.symm.trans hqn)
    rw [← hpq] at hapart
    exact hapart.1 List.mem_cons_self List.mem_cons_self

/-- Stacking some groups turns what they wait for into the new names of it. -/
theorem waitsWithin_stack (hn : (containers.map (·.name)).Nodup) (hu : Unreserved containers)
    {seen : List String} {bs : List (Nat × List Container)}
    (hb : ∀ p ∈ bs, p ∈ blocks containers) (h : WaitsWithin seen (bs.flatMap Prod.snd)) :
    WaitsWithin (seen.map (newName containers))
      ((bs.flatMap ofGroup).map (redirect (newNames containers))) := by
  induction bs generalizing seen with
  | nil => trivial
  | cons p bs ih =>
    have hp := hb p List.mem_cons_self
    obtain ⟨number, first, rest, rfl⟩ := exists_first hp
    rw [List.flatMap_cons, waitsWithin_append] at h
    rw [List.flatMap_cons, ofGroup_cons, List.singleton_append, List.map_cons]
    constructor
    · intro d hd
      obtain ⟨e, hm, rfl⟩ := (mem_redirect_waitsFor hn hu).1 hd
      rw [standIn_waitsFor] at hm
      exact List.mem_map_of_mem (h.1.1 e hm)
    -- what the members of the group were called is now called like the container in their place
    · refine (ih (fun q hq => hb q (List.mem_cons_of_mem _ hq)) h.2).mono ?_
      intro d hd
      rw [List.map_append, List.mem_append] at hd
      rcases hd with hd | hd
      · exact List.mem_append_left _ hd
      · obtain ⟨name, hname, rfl⟩ := List.mem_map.1 hd
        obtain ⟨c, hc, rfl⟩ := List.mem_map.1 hname
        rw [newName_of_block hn hp hc, redirect_name]
        exact List.mem_append_right _ (List.mem_singleton_self _)

/-- Stacking keeps a list well ordered. -/
theorem wellOrdered_stack (hw : WellOrdered containers) (hu : Unreserved containers) :
    WellOrdered (stack containers) where
  names_nodup := names_stack_nodup hw.names_nodup hu
  waitsWithin := by
    have h := hw.waitsWithin
    rw [← flatMap_blocks containers] at h
    exact waitsWithin_stack hw.names_nodup hu (fun p hp => hp) h

/-- The edges after stacking are those into the first members of the groups, under the new names. -/
theorem edge_stack (hn : (containers.map (·.name)).Nodup) (hu : Unreserved containers)
    {producer consumer : String} :
    Edge (stack containers) producer consumer ↔
      ∃ number first rest, (number, first :: rest) ∈ blocks containers ∧
        newName containers first.name = consumer ∧
        ∃ d ∈ first.waitsFor, newName containers d = producer := by
  constructor
  · rintro ⟨s, hs, rfl, hd⟩
    obtain ⟨number, first, rest, hp, rfl⟩ := mem_stack.1 hs
    obtain ⟨e, he, rfl⟩ := (mem_redirect_waitsFor hn hu).1 hd
    rw [standIn_waitsFor] at he
    exact ⟨number, first, rest, hp, by rw [newName_of_block hn hp List.mem_cons_self,
      redirect_name], e, he, rfl⟩
  · rintro ⟨number, first, rest, hp, rfl, d, hd, rfl⟩
    refine ⟨_, mem_stack.2 ⟨number, first, rest, hp, rfl⟩, ?_, ?_⟩
    · rw [redirect_name, newName_of_block hn hp List.mem_cons_self]
    · exact (mem_redirect_waitsFor hn hu).2 ⟨d, by rwa [standIn_waitsFor], rfl⟩

end ScenarioCompiler.Stack
