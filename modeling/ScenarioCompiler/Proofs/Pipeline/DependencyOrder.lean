import ScenarioCompiler.Proofs.Pipeline.GrownGraph

namespace ScenarioCompiler.DependencyGraph

open Relation

variable {seen deps : List String} {containers before after : List Container} {c : Container}
  {reason : String} {f : Failure}

/-! ### Lists that make a graph -/

/-- The names of a list are distinct, and what a container depends on is the root or comes before
the container. -/
structure InOrder (containers : List Container) : Prop where
  names_nodup : (containers.map (·.name)).Nodup
  earlier : ∀ before c after, containers = before ++ c :: after →
    ∀ d ∈ c.dependencies.getD [], d = rootDependency ∨ d ∈ before.map (·.name)

/-- The graph of a list: its nodes are the names in their order, and its edges are the
dependencies on other containers, which lead from the front to the back. -/
structure IsGraphOf (containers : List Container) (graph : DependencyGraph) : Prop where
  nodes : graph.nodes = containers.map (·.name)
  edges_nodup : graph.edges.Nodup
  mem_edges : ∀ producer consumer, (producer, consumer) ∈ graph.edges ↔ ∃ c ∈ containers,
    c.name = consumer ∧ producer ∈ c.dependencies.getD [] ∧ producer ≠ rootDependency
  forward : ∀ producer consumer, (producer, consumer) ∈ graph.edges →
    graph.nodes.idxOf producer < graph.nodes.idxOf consumer
  acyclic : ∀ name, ¬ TransGen (fun a b => (a, b) ∈ graph.edges) name name

theorem waitsWithin_iff : WaitsWithin seen containers ↔
    ∀ before c after, containers = before ++ c :: after →
      ∀ d ∈ c.waitsFor, d ∈ seen ++ before.map (·.name) := by
  constructor
  · rintro h before c after rfl d hd
    exact h.mem_of_split hd
  · intro h
    induction containers generalizing seen with
    | nil => trivial
    | cons c rest ih =>
      refine ⟨fun d hd => by simpa using h [] c rest rfl d hd, ih fun before x after he d hd => ?_⟩
      have hd := h (c :: before) x after (by rw [he, List.cons_append]) d hd
      rwa [List.append_assoc, List.singleton_append, ← List.map_cons]

theorem wellOrdered_iff_inOrder : WellOrdered containers ↔ InOrder containers := by
  have hroot : ∀ (c : Container) (names : List String),
      (∀ d ∈ c.waitsFor, d ∈ names) ↔
        ∀ d ∈ c.dependencies.getD [], d = rootDependency ∨ d ∈ names := by
    intro c names
    simp only [Container.mem_waitsFor, and_imp, ← or_iff_not_imp_left]
  constructor
  · rintro ⟨hn, hw⟩
    refine ⟨hn, fun before c after he => (hroot c _).1 fun d hd => ?_⟩
    exact waitsWithin_iff.1 hw before c after he d hd
  · rintro ⟨hn, he⟩
    refine ⟨hn, waitsWithin_iff.2 fun before c after hs => ?_⟩
    exact (hroot c _).2 (he before c after hs)

theorem edges_nodup (hw : WellOrdered containers) {graph : DependencyGraph}
    (hg : of containers = .ok graph) : graph.edges.Nodup := by
  simp only [of, bind_eq_ok, pure_eq_ok] at hg
  obtain ⟨_, -, rfl⟩ := hg
  refine List.nodup_flatMap.2 ⟨fun name _ => ?_, ?_⟩
  · have hs : (successors containers name).Nodup :=
      hw.names_nodup.sublist (List.filter_sublist.map _)
    exact hs.map fun x y h => (Prod.mk.inj h).2
  · refine hw.names_nodup.imp fun {a b} hne edge ha hb => ?_
    obtain ⟨_, -, rfl⟩ := List.mem_map.1 ha
    obtain ⟨_, -, he⟩ := List.mem_map.1 hb
    exact hne (Prod.mk.inj he).1.symm

theorem isGraphOf (hw : WellOrdered containers) {graph : DependencyGraph}
    (hg : of containers = .ok graph) : IsGraphOf containers graph := by
  have hnodes : graph.nodes = containers.map (·.name) := by
    simp only [of, bind_eq_ok, pure_eq_ok] at hg
    obtain ⟨_, -, rfl⟩ := hg
    rfl
  refine ⟨hnodes, edges_nodup hw hg, fun producer consumer => ?_,
    fun producer consumer he => ?_, ?_⟩
  · simp only [hw.mem_edges hg, Edge, Container.mem_waitsFor]
  · rw [hnodes]
    exact hw.edge_lt ((hw.mem_edges hg).1 he)
  · intro name hpath
    have hpath : TransGen (Edge containers) name name :=
      TransGen.mono (fun _ _ he => (hw.mem_edges hg).1 he) _ _ hpath
    exact Nat.lt_irrefl _ (hw.transGen_lt hpath)

/-! ### The first container that does not fit -/

/-- Why a container does not fit behind others: its name is one of theirs, or a dependency is not,
the first of these being the one that counts. -/
inductive Rejects (seen : List String) (c : Container) : String → Prop
  | taken (hname : c.name ∈ seen) : Rejects seen c "the name is not unique"
  | missing (hname : c.name ∉ seen) {first last : List String} {d : String}
      (split : c.dependencies.getD [] = first ++ d :: last) (root : d ≠ rootDependency)
      (absent : d ∉ seen) (present : ∀ x ∈ first, x = rootDependency ∨ x ∈ seen) :
      Rejects seen c (d ++ " does not precede it")

theorem find?_waitsFor {d : String} :
    (c.waitsFor.find? fun d => !seen.contains d) = some d ↔
      ∃ first last, c.dependencies.getD [] = first ++ d :: last ∧ d ≠ rootDependency ∧
        d ∉ seen ∧ ∀ x ∈ first, x = rootDependency ∨ x ∈ seen := by
  have hskip : ∀ first : List String,
      (∀ x ∈ first, (!decide (x ≠ rootDependency ∧ (!seen.contains x) = true)) = true) ↔
        ∀ x ∈ first, x = rootDependency ∨ x ∈ seen := by
    intro first
    refine forall₂_congr fun x _ => ?_
    simp [or_iff_not_imp_left]
  rw [Container.waitsFor, List.find?_filter, List.find?_eq_some_iff_append]
  simp only [decide_eq_true_eq, hskip]
  constructor
  · rintro ⟨⟨hroot, habsent⟩, first, last, he, hfirst⟩
    exact ⟨first, last, he, hroot, by simpa using habsent, hfirst⟩
  · rintro ⟨first, last, he, hroot, habsent, hfirst⟩
    exact ⟨⟨hroot, by simpa using habsent⟩, first, last, he, hfirst⟩

theorem check_of_rejects (h : Rejects seen c reason) (after : List Container) :
    check seen (c :: after) =
      .error (.invalidDependency c.name (c.dependencies.getD []) reason) := by
  rw [check]
  cases h with
  | taken hname => simp [hname]
  | missing hname split root absent present =>
    have hf := find?_waitsFor.2 ⟨_, _, split, root, absent, present⟩
    rw [hf]
    simp [hname]

/-- A container that is not rejected leaves the check to those behind it. -/
theorem rejects_or_check (seen : List String) (c : Container) :
    (∃ reason, Rejects seen c reason) ∨
      ∀ after, check seen (c :: after) = check (seen ++ [c.name]) after := by
  by_cases hname : c.name ∈ seen
  · exact .inl ⟨_, .taken hname⟩
  · cases hf : c.waitsFor.find? fun d => !seen.contains d with
    | some d =>
      obtain ⟨first, last, split, root, absent, present⟩ := find?_waitsFor.1 hf
      exact .inl ⟨_, .missing hname split root absent present⟩
    | none =>
      refine .inr fun after => ?_
      rw [check, hf]
      simp [hname]

theorem check_append (seen : List String) (before after : List Container) :
    check seen (before ++ after) =
      check seen before >>= fun _ => check (seen ++ before.map (·.name)) after := by
  induction before generalizing seen with
  | nil => simp [check, ok_bind]
  | cons c before ih =>
    rw [List.cons_append]
    rcases rejects_or_check seen c with ⟨reason, hreject⟩ | hnext
    · rw [check_of_rejects hreject, check_of_rejects hreject, error_bind]
    · rw [hnext, hnext, ih, List.append_assoc, List.singleton_append, ← List.map_cons]

theorem check_eq_error_iff : check seen containers = .error f ↔
    ∃ before c after reason, containers = before ++ c :: after ∧ check seen before = .ok () ∧
      Rejects (seen ++ before.map (·.name)) c reason ∧
      f = .invalidDependency c.name (c.dependencies.getD []) reason := by
  constructor
  · intro h
    induction containers generalizing seen with
    | nil => simp [check] at h
    | cons c rest ih =>
      rcases rejects_or_check seen c with ⟨reason, hreject⟩ | hnext
      · rw [check_of_rejects hreject rest] at h
        exact ⟨[], c, rest, reason, rfl, rfl, by simpa using hreject, (Except.error.inj h).symm⟩
      · rw [hnext] at h
        obtain ⟨before, x, after, reason, rfl, hok, hreject, rfl⟩ := ih h
        refine ⟨c :: before, x, after, reason, rfl, by rw [hnext, hok], ?_, rfl⟩
        rwa [List.map_cons, ← List.singleton_append, ← List.append_assoc]
  · rintro ⟨before, c, after, reason, rfl, hok, hreject, rfl⟩
    rw [check_append, hok, ok_bind, check_of_rejects hreject]

/-! ### The decision -/

/-- A list makes a graph just when it is in order. The graph is the one that grows container by
container, and the error is about the first container that does not fit. -/
theorem of_decides_order (containers : List Container) :
    ((∃ graph, of containers = .ok graph) ↔ InOrder containers) ∧
    (∀ graph, of containers = .ok graph → IsGraphOf containers graph) ∧
    (∀ f, of containers = .error f ↔ ∃ before c after reason, containers = before ++ c :: after ∧
      InOrder before ∧ Rejects (before.map (·.name)) c reason ∧
      f = .invalidDependency c.name (c.dependencies.getD []) reason) ∧
    (Adjacency.grow [] containers).map Adjacency.toGraph = of containers := by
  refine ⟨exists_of_eq_ok.trans wellOrdered_iff_inOrder, fun graph hg => ?_, fun f => ?_,
    grow_eq_of containers⟩
  · exact isGraphOf (exists_of_eq_ok.1 ⟨graph, hg⟩) hg
  · rw [of_eq_map, map_eq_error, check_eq_error_iff]
    simp only [check_nil_eq_ok, wellOrdered_iff_inOrder, List.nil_append]

/-- A container is named like the root, and one waits for another that comes too late. -/
def lateContainers : List Container := [
  { name := rootDependency, image := "image" },
  { name := "first", image := "image", dependencies := some [rootDependency] },
  { name := "second", image := "image", dependencies := some ["first", rootDependency, "third"] },
  { name := "third", image := "image" }]

theorem lateContainers_rejected :
    of lateContainers = .error (.invalidDependency "second" ["first", rootDependency, "third"]
      ("third" ++ " does not precede it")) ∧
    ∃ graph, of (lateContainers.take 2) = .ok graph ∧ graph.edges = [] ∧
      IsGraphOf (lateContainers.take 2) graph := by
  obtain ⟨-, -, herror, -⟩ := of_decides_order lateContainers
  obtain ⟨hexists, hgraph, -, -⟩ := of_decides_order (lateContainers.take 2)
  have hbefore : InOrder (lateContainers.take 2) := hexists.1 ⟨_, rfl⟩
  have hreject : Rejects ((lateContainers.take 2).map (·.name)) lateContainers[2]
      ("third" ++ " does not precede it") :=
    @Rejects.missing _ _ (by decide) ["first", rootDependency] [] "third" rfl (by decide)
      (by decide) (by decide)
  exact ⟨(herror _).2 ⟨_, _, _, _, rfl, hbefore, hreject, rfl⟩, _, rfl, rfl, hgraph _ rfl⟩

end ScenarioCompiler.DependencyGraph
