import ScenarioCompiler.Proofs.Pipeline.DependencyGraph
import ScenarioCompiler.Proofs.Table

namespace ScenarioCompiler.DependencyGraph

variable {before rest : List Container} {c : Container}

theorem WellOrdered.append_singleton (hw : WellOrdered before)
    (hfresh : c.name ∉ before.map (·.name)) (hwaits : c.waitsFor ⊆ before.map (·.name)) :
    WellOrdered (before ++ [c]) where
  names_nodup := by
    rw [List.map_append, List.map_singleton, ← List.concat_eq_append]
    exact hw.names_nodup.concat hfresh
  waitsWithin := waitsWithin_append.2 ⟨hw.waitsWithin, hwaits, trivial⟩

/-! ### A graph that grows -/

/-- The nodes of a graph in the order in which they came, each with the nodes that its edges lead
to. -/
abbrev Adjacency := Table (List String)

namespace Adjacency

variable {name producer consumer : String} {items : List String}

/-- Adds a node unless it is there. -/
def addNode (graph : Adjacency) (name : String) : Adjacency :=
  match Table.get? graph name with
  | none => Table.put graph name []
  | some _ => graph

/-- Adds an item at the end unless it is there. -/
def adjoin (item : String) (items : List String) : List String :=
  if item ∈ items then items else items ++ [item]

/-- Adds an edge, and its ends where they are not there. -/
def addEdge (graph : Adjacency) (producer consumer : String) : Adjacency :=
  let graph := (graph.addNode producer).addNode consumer
  Table.put graph producer (adjoin consumer ((Table.get? graph producer).getD []))

/-- Adds a node for a container, and then an edge from each container that it waits for. -/
def addContainer (graph : Adjacency) (c : Container) : Adjacency :=
  c.waitsFor.foldl (fun graph d => graph.addEdge d c.name) (graph.addNode c.name)

/-- Adds the containers of a list one after the other, after a check against the nodes so far. -/
def grow (graph : Adjacency) : List Container → Except Failure Adjacency
  | [] => .ok graph
  | c :: rest =>
    let dependencies := c.dependencies.getD []
    if (Table.names graph).contains c.name then
      .error (.invalidDependency c.name dependencies "the name is not unique")
    else
      match c.waitsFor.find? fun d => !(Table.names graph).contains d with
      | some d => .error (.invalidDependency c.name dependencies (d ++ " does not precede it"))
      | none => grow (graph.addContainer c) rest

/-- The graph with its edges one after the other. -/
def toGraph (graph : Adjacency) : DependencyGraph where
  nodes := Table.names graph
  edges := graph.flatMap fun entry => entry.2.map (entry.1, ·)

/-- The containers of a list, each with those that wait for it. -/
def rows (containers : List Container) : Adjacency :=
  containers.map fun c => (c.name, successors containers c.name)

@[simp] theorem names_rows (containers : List Container) :
    Table.names (rows containers) = containers.map (·.name) := by
  simp [rows, Table.names, Function.comp_def]

theorem addNode_of_mem {graph : Adjacency} (h : name ∈ Table.names graph) :
    graph.addNode name = graph := by
  cases hg : Table.get? graph name with
  | none => exact absurd h (Table.get?_eq_none.1 hg)
  | some _ => rw [addNode, hg]

theorem addNode_of_notMem {graph : Adjacency} (h : name ∉ Table.names graph) :
    graph.addNode name = graph ++ [(name, [])] := by
  rw [addNode, Table.get?_eq_none.2 h]
  exact Table.put_eq_append h

theorem adjoin_adjoin (item : String) (items : List String) :
    adjoin item (adjoin item items) = adjoin item items := by
  unfold adjoin
  split <;> simp [*]

/-! ### One more container -/

/-- Changes the successors of the nodes in a list. -/
def extend (nodes : List String) (consumer : String) (graph : Adjacency) : Adjacency :=
  graph.map fun entry => (entry.1, if entry.1 ∈ nodes then adjoin consumer entry.2 else entry.2)

@[simp] theorem names_extend (nodes : List String) (consumer : String) (graph : Adjacency) :
    Table.names (extend nodes consumer graph) = Table.names graph := by
  simp [extend, Table.names, Function.comp_def]

theorem put_eq_map {graph : Adjacency} (hd : (Table.names graph).Nodup)
    (h : name ∈ Table.names graph) (f : List String → List String) :
    Table.put graph name (f ((Table.get? graph name).getD [])) =
      graph.map fun entry => (entry.1, if entry.1 = name then f entry.2 else entry.2) := by
  induction graph with
  | nil => simp [Table.names] at h
  | cons entry rest ih =>
    obtain ⟨hn, hd⟩ := List.nodup_cons.1 hd
    rw [Table.put, Table.get?, List.map_cons]
    by_cases he : entry.1 = name
    · subst he
      -- the first row is the only one of its name, so the map leaves the others alone
      have hrest : ∀ other ∈ rest, other.1 ≠ entry.1 :=
        fun other ho hname => hn (List.mem_map.2 ⟨other, ho, hname⟩)
      simp only [if_true, Option.getD_some, List.cons.injEq, true_and]
      refine (List.map_id'' (fun other => rfl) rest).symm.trans (List.map_congr_left ?_)
      intro other ho
      rw [if_neg (hrest other ho)]
    · have hm : name ∈ Table.names rest := (List.mem_cons.1 h).resolve_left (Ne.symm he)
      simp only [if_neg he, ih hd hm]

theorem addEdge_eq_extend {graph : Adjacency} (hd : (Table.names graph).Nodup)
    (hp : producer ∈ Table.names graph) (hc : consumer ∈ Table.names graph) :
    graph.addEdge producer consumer = extend [producer] consumer graph := by
  simp only [addEdge, addNode_of_mem hp, addNode_of_mem hc, extend, List.mem_singleton]
  exact put_eq_map hd hp (adjoin consumer)

theorem foldl_addEdge {graph : Adjacency} (hd : (Table.names graph).Nodup)
    (hs : items ⊆ Table.names graph) (hc : consumer ∈ Table.names graph) :
    items.foldl (fun graph d => graph.addEdge d consumer) graph =
      extend items consumer graph := by
  induction items generalizing graph with
  | nil => simp [extend]
  | cons d items ih =>
    obtain ⟨hfirst, hrest⟩ := List.cons_subset.1 hs
    rw [List.foldl_cons, addEdge_eq_extend hd hfirst hc,
      ih (by simpa using hd) (by simpa using hrest) (by simpa using hc)]
    simp only [extend, List.map_map]
    refine List.map_congr_left fun entry _ => ?_
    by_cases he : entry.1 = d <;> by_cases hm : entry.1 ∈ items <;>
      simp [he, hm, adjoin_adjoin]

theorem successors_append_singleton (before : List Container) (c : Container) (name : String) :
    successors (before ++ [c]) name =
      successors before name ++ if name ∈ c.waitsFor then [c.name] else [] := by
  by_cases h : name ∈ c.waitsFor <;> simp [successors, h]

theorem successors_subset (before : List Container) (name : String) :
    successors before name ⊆ before.map (·.name) :=
  (List.filter_sublist.map _).subset

/-- Adding a container that waits for containers before it. -/
theorem addContainer_rows (hw : WellOrdered before) (hfresh : c.name ∉ before.map (·.name))
    (hwaits : c.waitsFor ⊆ before.map (·.name)) :
    (rows before).addContainer c = rows (before ++ [c]) := by
  have hnode : (rows before).addNode c.name = rows before ++ [(c.name, [])] :=
    addNode_of_notMem (by rwa [names_rows])
  have hnames : Table.names (rows before ++ [(c.name, [])]) = before.map (·.name) ++ [c.name] := by
    rw [Table.names_append, names_rows]
    rfl
  have hnodup : (Table.names (rows before ++ [(c.name, [])])).Nodup := by
    have h := (hw.append_singleton hfresh hwaits).names_nodup
    rwa [List.map_append, List.map_singleton, ← hnames] at h
  -- the container waits not for itself, and no container before it waits for it
  have hself : c.name ∉ c.waitsFor := fun hm => hfresh (hwaits hm)
  have hnone : successors before c.name = [] := by
    rw [successors, List.filter_eq_nil_iff.2, List.map_nil]
    intro x hx hm
    exact hfresh (by simpa using hw.waitsWithin.subset hx (List.contains_iff_mem.1 hm))
  rw [addContainer, hnode, foldl_addEdge hnodup
    (by rw [hnames]; exact List.subset_append_of_subset_left _ hwaits) (by simp [hnames])]
  simp only [extend, rows, List.map_append, List.map_map, List.map_singleton, if_neg hself,
    successors_append_singleton, hnone, List.append_nil]
  congr 1
  refine List.map_congr_left fun x _ => ?_
  have hnew : c.name ∉ successors before x.name := fun hm => hfresh (successors_subset _ _ hm)
  rw [Function.comp_apply, adjoin, if_neg hnew]
  split
  · rfl
  · rw [List.append_nil]

end Adjacency

open Adjacency

/-- From the rows of containers in order on, growing fails where the check fails. -/
theorem grow_rows (hw : WellOrdered before) :
    (grow (rows before) rest).map toGraph =
      (check (before.map (·.name)) rest).map fun _ => toGraph (rows (before ++ rest)) := by
  -- a container that passes the check keeps the ones before it in order
  induction rest generalizing before with
  | nil => simp [grow, check, Except.map]
  | cons c rest ih =>
    rw [grow, check, names_rows]
    by_cases hname : c.name ∈ before.map (·.name)
    · simp [hname, Except.map]
    · simp only [List.contains_iff_mem, hname, if_false]
      cases hf : c.waitsFor.find? fun d => !(before.map (·.name)).contains d with
      | some d => rfl
      | none =>
        have hwaits : c.waitsFor ⊆ before.map (·.name) := by
          intro d hd
          simpa using List.find?_eq_none.1 hf d hd
        have hnext := ih (hw.append_singleton hname hwaits)
        rw [List.append_assoc, List.map_append] at hnext
        rw [addContainer_rows hw hname hwaits]
        exact hnext

theorem of_eq_map (containers : List Container) :
    of containers = (check [] containers).map fun _ => toGraph (rows containers) := by
  have hgraph : toGraph (rows containers) = ⟨containers.map (·.name),
      (containers.map (·.name)).flatMap fun n =>
        (successors containers n).map fun s => (n, s)⟩ := by
    rw [toGraph, names_rows, rows, List.flatMap_map, List.flatMap_map]
  rw [hgraph, of]
  cases check [] containers <;> rfl

/-- The graph of a list is the one that grows by one container after the other. -/
theorem grow_eq_of (containers : List Container) :
    (grow [] containers).map toGraph = of containers := by
  have hnil : WellOrdered [] := ⟨List.nodup_nil, trivial⟩
  rw [of_eq_map]
  exact grow_rows hnil

end ScenarioCompiler.DependencyGraph
