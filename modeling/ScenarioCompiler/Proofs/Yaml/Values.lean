import ScenarioCompiler.Proofs.Datum
import ScenarioCompiler.Proofs.Yaml.Trees

namespace ScenarioCompiler.Yaml

variable {value : Json} {fields : List (String × Json)}

/-! ### Values of scalars -/

theorem boolValue_spelling (b : Bool) : boolValue (spelling (.bool b)) = .ok b := by
  cases b <;> decide +kernel

namespace Node

theorem atOnce_scalar (hs : IsScalar value) (h : value.Plain) :
    atOnce (.scalar (spellingTag value) (spelling value)) = .ok (some (.ofJson value)) := by
  cases value with
  | null | str _ => rfl
  | bool b =>
    change ((boolValue (spelling (.bool b))).map Datum.bool).bind _ = _
    rw [boolValue_spelling]
    rfl
  | int n =>
    change ((intValue (toString n)).map Datum.int).bind _ = _
    rw [intValue_int h]
    rfl
  | float _ | arr _ | obj _ => exact hs.elim

/-! ### Merge keys -/

/-- No key of a document merges other entries. -/
theorem mergeEntries_fieldTrees (fields : List (String × Json)) :
    mergeEntries (fieldTrees fields) = .ok ([], fieldTrees fields) := by
  induction fields with
  | nil => rfl
  | cons field rest ih =>
    have hkey : isMergeKey (.scalar .str field.1) = false := rfl
    rw [fieldTrees, mergeEntries, hkey, ih]
    rfl

theorem flattened_fieldTrees : flattened (fieldTrees fields) = .ok (fieldTrees fields) := by
  rw [flattened, mergeEntries_fieldTrees]
  rfl

/-! ### Faults -/

/-- The parts that the lists and mappings of a document have. -/
inductive Expected : Part → Prop where
  | key (name : String) : Expected (.key (.scalar .str name))
  | value {value : Json} (h : value.Plain) : Expected (.value (treeOf value))

theorem expected_itemTrees {items : List Json} (h : Json.PlainItems items) :
    ∀ part ∈ (itemTrees items).map Part.value, Expected part := by
  induction items with
  | nil => exact fun _ hp => absurd hp List.not_mem_nil
  | cons item rest ih =>
    rw [itemTrees, List.map_cons, List.forall_mem_cons]
    exact ⟨.value h.1, ih h.2⟩

theorem expected_fieldTrees (h : Json.PlainFields fields) :
    ∀ part ∈ (fieldTrees fields).flatMap fun e => [Part.key e.1, .value e.2], Expected part := by
  induction fields with
  | nil => exact fun _ hp => absurd hp List.not_mem_nil
  | cons field rest ih =>
    rw [fieldTrees, List.flatMap_cons, List.forall_mem_append, List.forall_mem_cons,
      List.forall_mem_singleton]
    exact ⟨⟨.key field.1, .value h.1⟩, ih h.2⟩

/-- A list or a mapping of a document. -/
def IsCollectionTree (node : Node) : Prop :=
  node.atOnce = .ok none ∧ ∀ part ∈ node.parts, Expected part

theorem isCollectionTree_arr {items : List Json} (h : (Json.arr items).Plain) :
    IsCollectionTree (treeOf (.arr items)) := by
  refine ⟨rfl, ?_⟩
  rw [treeOf]
  exact expected_itemTrees h

theorem isCollectionTree_obj (h : (Json.obj fields).Plain) :
    IsCollectionTree (treeOf (.obj fields)) := by
  refine ⟨rfl, ?_⟩
  have hparts : parts (.mapping .map (fieldTrees fields)) =
      (fieldTrees fields).flatMap fun e => [.key e.1, .value e.2] := by
    simp only [parts, tagOf, flattened_fieldTrees]
  rw [treeOf, hparts]
  exact expected_fieldTrees h.2

/-- What is met in a document is a value or a collection, and its keys are texts. -/
theorem meet_expected : ∀ met : List Part, (∀ part ∈ met, Expected part) →
    ∃ collections, meet met = .ok collections ∧ ∀ node ∈ collections, IsCollectionTree node
  | [], _ => ⟨[], rfl, fun _ hn => absurd hn List.not_mem_nil⟩
  | part :: rest, h => by
    obtain ⟨hpart, hrest⟩ := List.forall_mem_cons.1 h
    obtain ⟨collections, hmeet, hall⟩ := meet_expected rest hrest
    have hadd : ∀ {node : Node}, IsCollectionTree node →
        ∃ collections, meet (.value node :: rest) = .ok collections ∧
          ∀ node ∈ collections, IsCollectionTree node := by
      intro node hnode
      refine ⟨node :: collections, ?_, List.forall_mem_cons.2 ⟨hnode, hall⟩⟩
      rw [meet, hnode.1, hmeet]
      rfl
    cases hpart with
    | key name => exact ⟨collections, hmeet, hall⟩
    | @value value hv =>
      match value, hv with
      | .arr _, hv => exact hadd (isCollectionTree_arr hv)
      | .obj _, hv => exact hadd (isCollectionTree_obj hv)
      | .float _, hv => exact hv.elim
      | .null, hv | .bool _, hv | .int _, hv | .str _, hv =>
        refine ⟨collections, ?_, hall⟩
        rw [treeOf_scalar (by trivial), meet, atOnce_scalar (by trivial) hv]
        exact hmeet

/-- No part of a document is at fault, at whatever depth it stands. -/
theorem firstFault?_expected (depth : Nat) : ∀ {met : List Part},
    (∀ part ∈ met, Expected part) → firstFault? depth met = none := by
  induction depth with
  | zero => exact fun _ => rfl
  | succ depth ih =>
    intro met h
    cases met with
    | nil => rfl
    | cons part rest =>
      obtain ⟨collections, hmeet, hall⟩ := meet_expected (part :: rest) h
      rw [firstFault?, hmeet]
      · refine ih fun part hp => ?_
        obtain ⟨node, hn, hp⟩ := List.mem_flatMap.1 hp
        exact (hall node hn).2 part hp
      · exact nofun

/-! ### Trees of values -/

theorem setEntry_eq_append {entries : List (Datum × Datum)} {name : String} {d : Datum}
    (h : ∀ entry ∈ entries, entry.1 ≠ .str name) :
    Datum.setEntry entries (.str name) d = entries ++ [(.str name, d)] := by
  induction entries with
  | nil => rfl
  | cons entry rest ih =>
    rw [Datum.setEntry, if_neg (Datum.sameKey_str.not.2 (h entry List.mem_cons_self)),
      ih fun e he => h e (List.mem_cons_of_mem _ he), List.cons_append]

theorem toDatum_scalar (hs : IsScalar value) (h : value.Plain) (depth : Nat) :
    toDatum (depth + 1) (treeOf value) = .ofJson value := by
  rw [treeOf_scalar hs, toDatum]
  simp only [atOnce_scalar hs h]

theorem depth_pos (node : Node) : 0 < node.depth := by
  cases node <;> simp [depth]

mutual

/-- The value of the tree of a document, read as deep as the tree is. -/
theorem toDatum_treeOf : ∀ value : Json, value.Plain → ∀ {depth : Nat},
    (treeOf value).depth ≤ depth → toDatum depth (treeOf value) = .ofJson value
  | value, h, depth, hd => by
    obtain ⟨depth, rfl⟩ := Nat.exists_eq_succ_of_ne_zero
      (Nat.ne_of_gt (Nat.lt_of_lt_of_le (depth_pos _) hd))
    match value, h with
    | .null, h | .bool _, h | .int _, h | .str _, h => exact toDatum_scalar (by trivial) h depth
    | .float _, h => exact h.elim
    | .arr items, h =>
      have hitems := map_toDatum_itemTrees items h (Nat.le_of_succ_le_succ hd)
      exact congrArg Datum.seq hitems
    | .obj fields, h =>
      have hfields := @foldl_toDatum_fieldTrees fields h.2 h.1 depth
        (Nat.le_of_succ_le_succ hd) [] fun _ he => absurd he List.not_mem_nil
      have hentries : (flattened (fieldTrees fields)).toOption.getD [] = fieldTrees fields := by
        rw [flattened_fieldTrees]
        rfl
      change Datum.map (toDatum.entriesDatum (toDatum depth)
        ((flattened (fieldTrees fields)).toOption.getD [])) = _
      rw [hentries, toDatum.entriesDatum, hfields]
      rfl

theorem map_toDatum_itemTrees : ∀ items : List Json, Json.PlainItems items → ∀ {depth : Nat},
    itemsDepth (itemTrees items) ≤ depth →
    (itemTrees items).map (toDatum depth) = Datum.ofItems items
  | [], _, _, _ => rfl
  | item :: rest, h, depth, hd => by
    obtain ⟨hitem, hrest⟩ := Nat.max_le.1 hd
    rw [itemTrees, List.map_cons, toDatum_treeOf item h.1 hitem,
      map_toDatum_itemTrees rest h.2 hrest]
    rfl

theorem foldl_toDatum_fieldTrees : ∀ fields : List (String × Json), Json.PlainFields fields →
    (Table.names fields).Nodup → ∀ {depth : Nat}, entriesDepth (fieldTrees fields) ≤ depth →
    ∀ {entries : List (Datum × Datum)},
      (∀ entry ∈ entries, ∀ name ∈ Table.names fields, entry.1 ≠ .str name) →
      (fieldTrees fields).foldl
        (fun known e => Datum.setEntry known (toDatum depth e.1) (toDatum depth e.2)) entries =
      entries ++ Datum.ofFields fields
  | [], _, _, _, _, entries, _ => (List.append_nil entries).symm
  | (name, value) :: rest, h, hd, depth, hdepth, entries, he => by
    obtain ⟨hname, hd⟩ := List.nodup_cons.1 hd
    obtain ⟨hvalue, hdepth⟩ := Nat.max_le.1 hdepth
    obtain ⟨hpos, hvalue⟩ := Nat.max_le.1 hvalue
    obtain ⟨depth, rfl⟩ := Nat.exists_eq_succ_of_ne_zero (Nat.ne_of_gt hpos)
    have hkey : toDatum (depth + 1) (.scalar .str name) = .str name := rfl
    have hset := setEntry_eq_append (d := .ofJson value) fun entry hm =>
      he entry hm name List.mem_cons_self
    have hnext : ∀ entry ∈ entries ++ [(.str name, .ofJson value)], ∀ name ∈ Table.names rest,
        entry.1 ≠ .str name := by
      intro entry hm other hn
      rcases List.mem_append.1 hm with hm | hm
      · exact he entry hm other (List.mem_cons_of_mem _ hn)
      · rw [List.mem_singleton.1 hm, ne_eq, Datum.str.injEq]
        rintro rfl
        exact hname hn
    rw [fieldTrees, List.foldl_cons, hkey, toDatum_treeOf value h.1 hvalue, hset,
      foldl_toDatum_fieldTrees rest h.2 hd hdepth hnext, Datum.ofFields, List.append_assoc,
      List.singleton_append]

end

/-- The value of the tree of a document is the document. -/
theorem construct_treeOf (h : value.Plain) : construct (treeOf value) = .ok (.ofJson value) := by
  have hfault : firstFault? ((treeOf value).depth + 1) [.value (treeOf value)] = none :=
    firstFault?_expected _ (List.forall_mem_singleton.2 (.value h))
  simp only [construct, hfault, toDatum_treeOf value h le_rfl]

end Node

end ScenarioCompiler.Yaml
