import Mathlib.Tactic.ByContra
import ScenarioCompiler.Proofs.Pipeline.Stacking

namespace ScenarioCompiler.Stack

open DependencyGraph Relation

variable {containers before run after : List Container} {a b c x y : Container}

/-- In a run of solution containers each one waits just for the one before it, and it is the only
container that does so. -/
def Chained (containers : List Container) : Prop :=
  ∀ before x y after, containers = before ++ x :: y :: after → x.solutionContainer = true →
    y.solutionContainer = true → y.waitsFor = [x.name] ∧ ∀ z ∈ after, x.name ∉ z.waitsFor

theorem Chained.cons (h : Chained after)
    (hx : ∀ y rest, after = y :: rest → x.solutionContainer = true → y.solutionContainer = true →
      y.waitsFor = [x.name] ∧ ∀ z ∈ rest, x.name ∉ z.waitsFor) : Chained (x :: after) := by
  intro before u v rest he hu hv
  cases before with
  | nil =>
    obtain ⟨rfl, rfl⟩ := List.cons.inj he
    exact hx v rest rfl hu hv
  | cons first before => exact h before u v rest (List.cons.inj he).2 hu hv

theorem Chained.append (h : Chained after) (hb : ∀ c ∈ before, c.solutionContainer = false) :
    Chained (before ++ after) := by
  induction before with
  | nil => exact h
  | cons c before ih =>
    refine (ih fun x hx => hb x (List.mem_cons_of_mem _ hx)).cons fun _ _ _ hc => ?_
    simp [hb c List.mem_cons_self] at hc

/-- Along a run there is a path to every later member. -/
theorem path_of_run (hc : Chained containers) (he : containers = before ++ x :: run ++ after)
    (hs : ∀ c ∈ x :: run, c.solutionContainer = true) (hy : y ∈ run) :
    TransGen (Edge containers) x.name y.name := by
  induction run generalizing before x with
  | nil => simp at hy
  | cons z run ih =>
    have hsplit : containers = before ++ x :: z :: (run ++ after) := by simpa using he
    have hx := hs x List.mem_cons_self
    have hz := hs z (List.mem_cons_of_mem _ List.mem_cons_self)
    have hstep : Edge containers x.name z.name := by
      refine ⟨z, by simp [hsplit], rfl, ?_⟩
      rw [(hc before x z _ hsplit hx hz).1]
      exact List.mem_singleton_self _
    rcases List.mem_cons.1 hy with rfl | hy
    · exact .single hstep
    · have he' : containers = (before ++ [x]) ++ z :: run ++ after := by simpa using he
      exact .head hstep (ih he' (fun c hm => hs c (List.mem_cons_of_mem _ hm)) hy)

/-- A container outside a run that waits for a member waits for the last one. -/
theorem last_of_waitsFor (hw : WellOrdered containers) (hc : Chained containers)
    {first last : List Container}
    (he : containers = before ++ (first ++ x :: last) ++ after)
    (hs : ∀ c ∈ first ++ x :: last, c.solutionContainer = true)
    (hy : y ∈ containers) (hout : y ∉ first ++ x :: last) (hd : x.name ∈ y.waitsFor) :
    last = [] := by
  cases last with
  | nil => rfl
  | cons z last =>
    exfalso
    have hsplit : containers = (before ++ first) ++ x :: z :: (last ++ after) := by simpa using he
    have hchain := hc _ x z _ hsplit (hs x (by simp)) (hs z (by simp))
    have hm : y ∈ (before ++ first) ++ x :: z :: (last ++ after) := hsplit ▸ hy
    rcases List.mem_append.1 hm with hm | hm
    · -- a container before `x` waits only for names before `x`
      obtain ⟨front, back, hf⟩ := List.append_of_mem hm
      rw [hf, List.append_assoc] at hsplit
      have hw' := hw
      rw [hsplit] at hw'
      have hx : x.name ∈ front.map (·.name) := by simpa using hw'.waitsWithin.mem_of_split hd
      have hn := hw'.names_nodup
      rw [List.map_append, List.nodup_append] at hn
      exact hn.2.2 _ hx _ (by simp) rfl
    · rcases List.mem_cons.1 hm with rfl | hm
      · exact hout (by simp)
      rcases List.mem_cons.1 hm with rfl | hm
      · exact hout (by simp)
      rcases List.mem_append.1 hm with hm | hm
      · exact hout (by simp [hm])
      · exact hchain.2 y (List.mem_append_right _ hm) hd

variable {p q : Nat × List Container}

/-- Members of a group are linked in their order. -/
theorem path_of_block (hc : Chained containers) (hp : p ∈ blocks containers)
    {first last : List Container} (hsplit : p.2 = first ++ a :: last) (hb : b ∈ last) :
    TransGen (Edge containers) a.name b.name := by
  obtain ⟨before, after, he⟩ := block_split hp
  have hl : 1 < p.2.length := by
    have := List.length_pos_of_mem hb
    simp only [hsplit, List.length_append, List.length_cons]
    omega
  have hs := fun c => solution_of_block (c := c) hp hl
  rw [hsplit] at he hs
  have hrun : containers = (before ++ first) ++ a :: last ++ after := by simpa using he
  exact path_of_run hc hrun (fun c hm => hs c (List.mem_append_right _ hm)) hb

/-- Of two members of a list one comes first. -/
theorem sublist_or_sublist {l : List Container} (ha : a ∈ l) (hb : b ∈ l) (hne : a ≠ b) :
    [a, b].Sublist l ∨ [b, a].Sublist l := by
  obtain ⟨first, last, rfl⟩ := List.append_of_mem ha
  rcases List.mem_append.1 hb with hb | hb
  · right
    exact (List.singleton_sublist.2 hb).append (List.singleton_sublist.2 List.mem_cons_self)
  · rcases List.mem_cons.1 hb with rfl | hb
    · exact absurd rfl hne
    · left
      exact ((List.singleton_sublist.2 hb).cons_cons a).trans (List.sublist_append_right _ _)

/-- Within a group the order of execution is the order of the members. -/
theorem transGen_iff_sublist (hw : WellOrdered containers) (hc : Chained containers)
    (hp : p ∈ blocks containers) (ha : a ∈ p.2) (hb : b ∈ p.2) (hne : a ≠ b) :
    TransGen (Edge containers) a.name b.name ↔ [a, b].Sublist p.2 := by
  have path {u v : Container} (h : [u, v].Sublist p.2) :
      TransGen (Edge containers) u.name v.name := by
    obtain ⟨front, back, he, hu, hv⟩ := List.cons_sublist_iff.1 h
    obtain ⟨first, middle, rfl⟩ := List.append_of_mem hu
    have hsplit : p.2 = first ++ u :: (middle ++ back) := by simp [he]
    exact path_of_block hc hp hsplit (List.mem_append_right _ (List.singleton_sublist.1 hv))
  refine ⟨fun h => ?_, path⟩
  rcases sublist_or_sublist ha hb hne with hab | hba
  · exact hab
  · exact absurd (hw.transGen_lt h) (Nat.lt_asymm (hw.transGen_lt (path hba)))

/-- The first member of a group comes before the others. -/
theorem reflTransGen_first (hc : Chained containers) {number : Nat} {first : Container}
    {rest : List Container} (hp : (number, first :: rest) ∈ blocks containers)
    (hb : b ∈ first :: rest) : ReflTransGen (Edge containers) first.name b.name := by
  rcases List.mem_cons.1 hb with rfl | hb
  · exact .refl
  · have hsplit : (number, first :: rest).2 = [] ++ first :: rest := rfl
    exact (path_of_block hc hp hsplit hb).to_reflTransGen

/-- Every member of a group comes before the containers outside it that wait for a member. -/
theorem reflTransGen_last (hw : WellOrdered containers) (hc : Chained containers)
    (hp : p ∈ blocks containers) (ha : a ∈ p.2) (hx : x ∈ p.2) (hy : y ∈ containers)
    (hout : y ∉ p.2) (hd : x.name ∈ y.waitsFor) :
    ReflTransGen (Edge containers) a.name x.name := by
  by_cases hl : 1 < p.2.length
  · obtain ⟨before, after, he⟩ := block_split hp
    obtain ⟨first, last, hsplit⟩ := List.append_of_mem hx
    have hs := fun c => solution_of_block (c := c) hp hl
    rw [hsplit] at he hs hout ha
    obtain rfl := last_of_waitsFor hw hc he hs hy hout hd
    rcases List.mem_append.1 ha with ha | ha
    · obtain ⟨front, back, rfl⟩ := List.append_of_mem ha
      have hback : p.2 = front ++ a :: (back ++ [x]) := by simpa using hsplit
      exact (path_of_block hc hp hback (by simp)).to_reflTransGen
    · rw [List.mem_singleton.1 ha]
  · obtain ⟨number, first, rest, rfl⟩ := exists_first hp
    have hr : rest = [] := List.length_eq_zero_iff.1 (by simpa using hl)
    subst hr
    rw [List.mem_singleton.1 ha, List.mem_singleton.1 hx]

/-- Two containers are in one group just when the same container takes their places. -/
theorem newName_eq_iff (hn : (containers.map (·.name)).Nodup) (hu : Unreserved containers)
    (hp : p ∈ blocks containers) (hq : q ∈ blocks containers) (ha : a ∈ p.2) (hb : b ∈ q.2) :
    newName containers a.name = newName containers b.name ↔ p = q := by
  obtain ⟨m, x, xs, rfl⟩ := exists_first hp
  obtain ⟨n, y, ys, rfl⟩ := exists_first hq
  rw [newName_of_block hn hp ha, newName_of_block hn hq hb]
  exact ⟨standIn_name_injective hn hu hp hq, fun h => by cases h; rfl⟩

/-- An edge is either one within a group or one of the stacked list. -/
theorem edge_stack_of_edge (hw : WellOrdered containers) (hu : Unreserved containers)
    (hc : Chained containers) {producer consumer : String}
    (h : Edge containers producer consumer) :
    newName containers producer = newName containers consumer ∨
      Edge (stack containers) (newName containers producer) (newName containers consumer) := by
  obtain ⟨y, hy, rfl, hd⟩ := h
  obtain ⟨p, hp, hyp⟩ := exists_block hy
  obtain ⟨before, after, he⟩ := block_split hp
  obtain ⟨number, first, rest, rfl⟩ := exists_first hp
  by_cases hf : y = first
  · right
    exact (edge_stack hw.names_nodup hu).2 ⟨number, first, rest, hp, by rw [hf], _, hf ▸ hd, rfl⟩
  · left
    -- a later member waits for the member before it only
    have hrest : y ∈ rest := (List.mem_cons.1 hyp).resolve_left hf
    obtain ⟨front, back, hsplit⟩ := List.append_of_mem hrest
    have hl : 1 < (first :: rest).length := by
      have := List.length_pos_of_mem hrest
      rw [List.length_cons]
      omega
    have hs := fun c => solution_of_block (c := c) hp hl
    obtain ⟨front', x, hx⟩ : ∃ front' x, first :: front = front' ++ [x] :=
      ⟨_, _, (List.dropLast_append_getLast (List.cons_ne_nil first front)).symm⟩
    have hgroup : first :: rest = front' ++ x :: y :: back := by
      rw [hsplit, ← List.cons_append, hx, List.append_assoc, List.singleton_append]
    have hxm : x ∈ first :: rest := by simp [hgroup]
    have hchain := hc (before ++ front') x y (back ++ after) (by rw [he, hgroup]; simp)
      (hs x hxm) (hs y hyp)
    rw [hchain.1, List.mem_singleton] at hd
    rw [hd]
    exact (newName_eq_iff hw.names_nodup hu hp hp hxm hyp).2 rfl

theorem eq_or_path_of_transGen (hw : WellOrdered containers) (hu : Unreserved containers)
    (hc : Chained containers) {producer consumer : String}
    (h : TransGen (Edge containers) producer consumer) :
    newName containers producer = newName containers consumer ∨
      TransGen (Edge (stack containers)) (newName containers producer)
        (newName containers consumer) := by
  induction h with
  | single he => exact (edge_stack_of_edge hw hu hc he).imp id .single
  | tail _ he ih =>
    rcases edge_stack_of_edge hw hu hc he with hsame | hstep
    · rwa [← hsame]
    · right
      rcases ih with heq | hpath
      · exact heq ▸ .single hstep
      · exact .tail hpath hstep

/-- An edge of the stacked list comes from a path between any members of its groups. -/
theorem transGen_of_edge_stack (hw : WellOrdered containers) (hu : Unreserved containers)
    (hc : Chained containers) (ha : a ∈ containers) (hb : b ∈ containers)
    (h : Edge (stack containers) (newName containers a.name) (newName containers b.name)) :
    TransGen (Edge containers) a.name b.name := by
  have hn := hw.names_nodup
  obtain ⟨number, first, rest, hp, hfb, d, hd, hda⟩ := (edge_stack hn hu).1 h
  have hfirst := mem_of_block hp List.mem_cons_self
  obtain ⟨x, hx, rfl⟩ := hw.exists_of_waitsFor hfirst hd
  obtain ⟨q, hq, haq⟩ := exists_block ha
  obtain ⟨q', hq', hxq⟩ := exists_block hx
  obtain rfl := (newName_eq_iff hn hu hq' hq hxq haq).1 hda
  obtain ⟨p, hp', hbp⟩ := exists_block hb
  obtain rfl := (newName_eq_iff hn hu hp hp' List.mem_cons_self hbp).1 hfb
  have hedge : Edge containers x.name first.name := ⟨first, hfirst, rfl, hd⟩
  -- were the edge one within a group, it would close a cycle with the path to `x`
  have hout : first ∉ q'.2 := by
    intro hf
    obtain rfl := block_unique hn.of_map hq' hp hf List.mem_cons_self
    have hback := TransGen.tail' (reflTransGen_first hc hp hxq) hedge
    exact Nat.lt_irrefl _ (hw.transGen_lt hback)
  have hax := reflTransGen_last hw hc hq' haq hxq hfirst hout hd
  exact (TransGen.tail' hax hedge).trans_left (reflTransGen_first hc hp hbp)

theorem transGen_of_stack (hw : WellOrdered containers) (hu : Unreserved containers)
    (hc : Chained containers) (ha : a ∈ containers) (hb : b ∈ containers) {consumer : String}
    (h : TransGen (Edge (stack containers)) (newName containers a.name) consumer)
    (he : newName containers b.name = consumer) :
    TransGen (Edge containers) a.name b.name := by
  induction h generalizing b with
  | single h => exact transGen_of_edge_stack hw hu hc ha hb (he ▸ h)
  | tail _ h ih =>
    obtain ⟨_, first, _, hp, _, d, hd, hdm⟩ := (edge_stack hw.names_nodup hu).1 h
    obtain ⟨x, hx, rfl⟩ := hw.exists_of_waitsFor (mem_of_block hp List.mem_cons_self) hd
    have hxb := transGen_of_edge_stack hw hu hc hx hb (by rw [hdm, he]; exact h)
    exact (ih hx hdm).trans hxb

/-- Stacking keeps the order of execution of containers in different groups. -/
theorem transGen_stack (hw : WellOrdered containers) (hu : Unreserved containers)
    (hc : Chained containers) (ha : a ∈ containers) (hb : b ∈ containers)
    (hne : newName containers a.name ≠ newName containers b.name) :
    TransGen (Edge containers) a.name b.name ↔
      TransGen (Edge (stack containers)) (newName containers a.name)
        (newName containers b.name) :=
  ⟨fun h => (eq_or_path_of_transGen hw hu hc h).resolve_left hne,
    fun h => transGen_of_stack hw hu hc ha hb h rfl⟩

end ScenarioCompiler.Stack
