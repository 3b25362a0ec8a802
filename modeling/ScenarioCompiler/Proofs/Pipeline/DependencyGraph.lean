import Mathlib.Data.List.Basic
import Mathlib.Logic.Relation
import ScenarioCompiler.Pipeline.DependencyGraph
import ScenarioCompiler.Proofs.Outcome

namespace ScenarioCompiler

theorem Container.mem_waitsFor {c : Container} {d : String} :
    d ∈ c.waitsFor ↔ d ∈ c.dependencies.getD [] ∧ d ≠ rootDependency := by
  simp [Container.waitsFor]

namespace DependencyGraph

variable {seen seen' : List String} {containers others : List Container}

/-- Every container waits only for names in `seen` and for containers before it. -/
def WaitsWithin (seen : List String) : List Container → Prop
  | [] => True
  | c :: rest => (∀ d ∈ c.waitsFor, d ∈ seen) ∧ WaitsWithin (seen ++ [c.name]) rest

theorem waitsWithin_append :
    WaitsWithin seen (containers ++ others) ↔
      WaitsWithin seen containers ∧ WaitsWithin (seen ++ containers.map (·.name)) others := by
  induction containers generalizing seen with
  | nil => simp [WaitsWithin]
  | cons c rest ih => simp [WaitsWithin, ih, and_assoc]

theorem WaitsWithin.mono (h : WaitsWithin seen containers) (hs : seen ⊆ seen') :
    WaitsWithin seen' containers := by
  induction containers generalizing seen seen' with
  | nil => trivial
  | cons c rest ih =>
    refine ⟨fun d hd => hs (h.1 d hd), ih h.2 ?_⟩
    intro d hd
    rcases List.mem_append.1 hd with hd | hd
    · exact List.mem_append_left _ (hs hd)
    · exact List.mem_append_right _ hd

theorem WaitsWithin.mem_of_split {before after : List Container} {c : Container}
    (h : WaitsWithin seen (before ++ c :: after)) {d : String} (hd : d ∈ c.waitsFor) :
    d ∈ seen ++ before.map (·.name) :=
  (waitsWithin_append.1 h).2.1 d hd

theorem WaitsWithin.subset {c : Container} (h : WaitsWithin seen containers)
    (hc : c ∈ containers) : c.waitsFor ⊆ seen ++ containers.map (·.name) := by
  obtain ⟨before, after, rfl⟩ := List.append_of_mem hc
  intro d hd
  have hm := h.mem_of_split hd
  simp only [List.mem_append, List.map_append] at hm ⊢
  exact hm.imp_right .inl

theorem waitsWithin_of_forall (h : ∀ c ∈ containers, c.waitsFor ⊆ seen) :
    WaitsWithin seen containers := by
  induction containers generalizing seen with
  | nil => trivial
  | cons c rest ih =>
    refine ⟨h c List.mem_cons_self, ih fun x hx => ?_⟩
    exact List.Subset.trans (h x (List.mem_cons_of_mem _ hx)) (List.subset_append_left _ _)

/-- The names of a list are distinct, and every container waits only for containers before it. -/
structure WellOrdered (containers : List Container) : Prop where
  names_nodup : (containers.map (·.name)).Nodup
  waitsWithin : WaitsWithin [] containers

theorem check_eq_ok :
    check seen containers = .ok () ↔
      (∀ c ∈ containers, c.name ∉ seen) ∧ (containers.map (·.name)).Nodup ∧
        WaitsWithin seen containers := by
  induction containers generalizing seen with
  | nil => simp [check, WaitsWithin]
  | cons c rest ih =>
    rw [check]
    by_cases hn : c.name ∈ seen
    · simp [hn]
    simp only [List.contains_eq_mem, hn, decide_false, Bool.false_eq_true, if_false]
    cases hf : c.waitsFor.find? (fun d => !decide (d ∈ seen)) with
    | some d =>
      have hd : d ∉ seen := by simpa using List.find?_some hf
      have hw : ¬ WaitsWithin seen (c :: rest) :=
        fun h => hd (h.1 d (List.mem_of_find?_eq_some hf))
      simp [hw]
    | none =>
      have hw : ∀ d ∈ c.waitsFor, d ∈ seen := by simpa using hf
      simp only [ih, WaitsWithin, List.map_cons, List.nodup_cons, List.mem_cons, forall_eq_or_imp,
        List.mem_append, List.mem_map, List.not_mem_nil, or_false, not_or]
      -- a second container of this name is one already seen on the left, a repetition on the right
      constructor
      · rintro ⟨hfresh, hnodup, hrest⟩
        have hc : ¬ ∃ x ∈ rest, x.name = c.name := by
          rintro ⟨x, hx, he⟩
          exact (hfresh x hx).2 he
        exact ⟨⟨hn, fun x hx => (hfresh x hx).1⟩, ⟨hc, hnodup⟩, hw, hrest⟩
      · rintro ⟨⟨-, hfresh⟩, ⟨hc, hnodup⟩, -, hrest⟩
        exact ⟨fun x hx => ⟨hfresh x hx, fun he => hc ⟨x, hx, he⟩⟩, hnodup, hrest⟩

theorem check_nil_eq_ok : check [] containers = .ok () ↔ WellOrdered containers := by
  rw [check_eq_ok]
  exact ⟨fun h => ⟨h.2.1, h.2.2⟩, fun h => ⟨by simp, h.names_nodup, h.waitsWithin⟩⟩

/-- The graph of a list exists just when the list is well ordered. -/
theorem exists_of_eq_ok : (∃ graph, of containers = .ok graph) ↔ WellOrdered containers := by
  rw [← check_nil_eq_ok]
  simp only [of, bind_eq_ok, pure_eq_ok]
  constructor
  · rintro ⟨_, _, h, -⟩
    exact h
  · intro h
    exact ⟨_, _, h, rfl⟩

theorem WellOrdered.of_ne_error (h : WellOrdered containers) (f : Failure) :
    of containers ≠ .error f := by
  obtain ⟨graph, hg⟩ := exists_of_eq_ok.2 h
  simp [hg]

/-- The container named `consumer` waits for the one named `producer`. -/
def Edge (containers : List Container) (producer consumer : String) : Prop :=
  ∃ c ∈ containers, c.name = consumer ∧ producer ∈ c.waitsFor

theorem WellOrdered.exists_of_waitsFor (h : WellOrdered containers) {c : Container}
    (hc : c ∈ containers) {d : String} (hd : d ∈ c.waitsFor) :
    ∃ producer ∈ containers, producer.name = d := by
  obtain ⟨before, after, rfl⟩ := List.append_of_mem hc
  have hb : d ∈ before.map (·.name) := by simpa using h.waitsWithin.mem_of_split hd
  obtain ⟨x, hx, he⟩ := List.mem_map.1 hb
  exact ⟨x, List.mem_append_left _ hx, he⟩

theorem WellOrdered.mem_edges (h : WellOrdered containers) {graph : DependencyGraph}
    (hg : of containers = .ok graph) {producer consumer : String} :
    (producer, consumer) ∈ graph.edges ↔ Edge containers producer consumer := by
  simp only [of, bind_eq_ok, pure_eq_ok] at hg
  obtain ⟨_, -, rfl⟩ := hg
  simp only [List.mem_flatMap, List.mem_map, successors, Prod.mk.injEq]
  constructor
  · rintro ⟨_, -, _, ⟨c, hc, rfl⟩, rfl, rfl⟩
    obtain ⟨hc, hp⟩ := List.mem_filter.1 hc
    exact ⟨c, hc, rfl, List.contains_iff_mem.1 hp⟩
  · rintro ⟨c, hc, rfl, hp⟩
    have hf : c ∈ containers.filter fun x => x.waitsFor.contains producer :=
      List.mem_filter.2 ⟨hc, List.contains_iff_mem.2 hp⟩
    exact ⟨producer, h.exists_of_waitsFor hc hp, _, ⟨c, hf, rfl⟩, rfl, rfl⟩

/-- Edges lead from the front of a well ordered list to its back. -/
theorem WellOrdered.edge_lt (h : WellOrdered containers) {producer consumer : String}
    (he : Edge containers producer consumer) :
    (containers.map (·.name)).idxOf producer < (containers.map (·.name)).idxOf consumer := by
  obtain ⟨c, hc, rfl, hp⟩ := he
  obtain ⟨before, after, rfl⟩ := List.append_of_mem hc
  have hb : producer ∈ before.map (·.name) := by simpa using h.waitsWithin.mem_of_split hp
  have hn : c.name ∉ before.map (·.name) := by
    have := h.names_nodup
    rw [List.map_append, List.map_cons, List.nodup_append] at this
    exact fun hm => this.2.2 _ hm _ List.mem_cons_self rfl
  rw [List.map_append, List.idxOf_append_of_mem hb, List.idxOf_append_of_notMem hn]
  exact Nat.lt_add_right _ (List.idxOf_lt_length_of_mem hb)

theorem WellOrdered.transGen_lt (h : WellOrdered containers) {producer consumer : String}
    (he : Relation.TransGen (Edge containers) producer consumer) :
    (containers.map (·.name)).idxOf producer < (containers.map (·.name)).idxOf consumer := by
  induction he with
  | single he => exact h.edge_lt he
  | tail _ he ih => exact Nat.lt_trans ih (h.edge_lt he)

end DependencyGraph

end ScenarioCompiler
