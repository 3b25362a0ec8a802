import ScenarioCompiler.Proofs.Outcome
import ScenarioCompiler.Proofs.Workflow.Serialize

namespace ScenarioCompiler

namespace ApiValue

variable {φ : Type} {x y : ApiValue φ} {j : Json} {e : φ} {items : List (ApiValue φ)}
  {entries fields : List (String × ApiValue φ)} {name className : String}

/-! ### One node of a tree -/

/-- The fields that are set. -/
def filledFields (fields : List (String × ApiValue φ)) : List (String × ApiValue φ) :=
  fields.filterMap fun f => f.2.set?.map (f.1, ·)

theorem mem_filledFields : (name, x) ∈ filledFields fields ↔ (name, x) ∈ fields ∧ x ≠ null := by
  rw [filledFields, List.mem_filterMap]
  constructor
  · rintro ⟨field, hm, hv⟩
    obtain ⟨value, hset, hf⟩ := Option.map_eq_some_iff.1 hv
    obtain ⟨rfl, hx⟩ := set?_eq_some.1 hset
    cases hf
    exact ⟨hm, hx⟩
  · rintro ⟨hm, hx⟩
    exact ⟨_, hm, Option.map_eq_some_iff.2 ⟨x, set?_eq_some.2 ⟨rfl, hx⟩, rfl⟩⟩

/-- A value that stands in a document under its name. -/
def Written (entry : String × ApiValue φ) (doc : String × Json) : Prop :=
  doc.1 = entry.1 ∧ serialize entry.2 = .ok doc.2

def serializeEntry (entry : String × ApiValue φ) : Except φ (String × Json) := do
  let value ← serialize entry.2
  pure (entry.1, value)

theorem serializeEntry_eq_ok {entry : String × ApiValue φ} {doc : String × Json} :
    serializeEntry entry = .ok doc ↔ Written entry doc := by
  rw [serializeEntry, bind_pure_eq_ok]
  constructor
  · rintro ⟨value, hv, rfl⟩
    exact ⟨rfl, hv⟩
  · rintro ⟨hn, hv⟩
    exact ⟨doc.2, hv, by rw [← hn]⟩

theorem serializeEntry_eq_error {entry : String × ApiValue φ} :
    serializeEntry entry = .error e ↔ serialize entry.2 = .error e :=
  bind_pure_eq_error

theorem serializeItems_eq_mapM (items : List (ApiValue φ)) :
    serializeItems items = items.mapM serialize := by
  induction items with
  | nil => rfl
  | cons item rest ih => rw [serializeItems, List.mapM_cons, ih]

theorem serializeEntries_eq_mapM (entries : List (String × ApiValue φ)) :
    serializeEntries entries = entries.mapM serializeEntry := by
  induction entries with
  | nil => rfl
  | cons entry rest ih =>
    rw [serializeEntries, List.mapM_cons, ih, serializeEntry, bind_assoc]
    simp only [pure_bind]

/-- An object is written like the mapping of its fields that are set. -/
theorem serializeFields_eq_mapM (fields : List (String × ApiValue φ)) :
    serializeFields fields = (filledFields fields).mapM serializeEntry := by
  induction fields with
  | nil => rfl
  | cons field rest ih =>
    obtain ⟨name, value⟩ := field
    cases value with
    | null =>
      rw [serializeFields, ih]
      rfl
    | _ =>
      -- A field that is set is written like an entry of a mapping.
      rw [serializeFields, ih, ← serializeEntries_eq_mapM, ← serializeEntries]
      · rw [serializeEntries_eq_mapM]
        rfl
      · simp

/-- What a node becomes, given what becomes of the nodes right below it. -/
inductive Becomes : ApiValue φ → Json → Prop where
  | null : Becomes .null .null
  | bool (value : Bool) : Becomes (.bool value) (.bool value)
  | int (value : Int) : Becomes (.int value) (.int value)
  | float (value : Binary64) : Becomes (.float value) (.float value)
  | str (value : String) : Becomes (.str value) (.str value)
  | date (y m d : Nat) : Becomes (.date y m d) (.str (dateText y m d))
  | moment (y m d h mi s us : Nat) :
    Becomes (.moment y m d h mi s us) (.str (momentText y m d h mi s us))
  | list {items : List (ApiValue φ)} {docs : List Json}
    (h : List.Forall₂ (fun item doc => serialize item = .ok doc) items docs) :
    Becomes (.list items) (.arr docs)
  | mapping {entries : List (String × ApiValue φ)} {docs : List (String × Json)}
    (h : List.Forall₂ Written entries docs) : Becomes (.mapping entries) (.obj docs)
  | object {className : String} {fields : List (String × ApiValue φ)} {docs : List (String × Json)}
    (h : List.Forall₂ Written (filledFields fields) docs) :
    Becomes (.object className fields) (.obj docs)

theorem forall₂_written {docs : List (String × Json)} :
    entries.mapM serializeEntry = .ok docs ↔ List.Forall₂ Written entries docs := by
  simp only [mapM_eq_ok_iff, serializeEntry_eq_ok]

theorem serialize_eq_ok_iff : serialize x = .ok j ↔ Becomes x j := by
  constructor
  · intro h
    cases x <;> rw [serialize] at h
    case list items =>
      obtain ⟨docs, hd, rfl⟩ := bind_pure_eq_ok.1 h
      rw [serializeItems_eq_mapM, mapM_eq_ok_iff] at hd
      exact .list hd
    case mapping entries =>
      obtain ⟨docs, hd, rfl⟩ := bind_pure_eq_ok.1 h
      rw [serializeEntries_eq_mapM, forall₂_written] at hd
      exact .mapping hd
    case object className fields =>
      obtain ⟨docs, hd, rfl⟩ := bind_pure_eq_ok.1 h
      rw [serializeFields_eq_mapM, forall₂_written] at hd
      exact .object hd
    case foreign value => cases h
    all_goals
      cases h
      constructor
  · intro h
    cases h with
    | list h => rw [serialize, serializeItems_eq_mapM, mapM_eq_ok_iff.2 h]; rfl
    | mapping h => rw [serialize, serializeEntries_eq_mapM, forall₂_written.2 h]; rfl
    | object h => rw [serialize, serializeFields_eq_mapM, forall₂_written.2 h]; rfl
    | _ => rfl

/-! ### Places in a tree -/

/-- A step from a node to one right below it. -/
inductive Place where
  | item (position : Nat)
  | field (name : String)

/-- The nodes that a document has a place for: the items of lists, the values of mappings, and the
fields of objects that are set. -/
inductive Reaches : ApiValue φ → List Place → ApiValue φ → Prop where
  | here (x : ApiValue φ) : Reaches x [] x
  | item {items : List (ApiValue φ)} {position : Nat} {x y : ApiValue φ} {path : List Place}
    (hx : items[position]? = some x) (h : Reaches x path y) :
    Reaches (.list items) (.item position :: path) y
  | entry {entries : List (String × ApiValue φ)} {name : String} {x y : ApiValue φ}
    {path : List Place} (hx : (name, x) ∈ entries) (h : Reaches x path y) :
    Reaches (.mapping entries) (.field name :: path) y
  | field {className : String} {fields : List (String × ApiValue φ)} {name : String}
    {x y : ApiValue φ} {path : List Place} (hx : (name, x) ∈ fields) (hset : x ≠ .null)
    (h : Reaches x path y) : Reaches (.object className fields) (.field name :: path) y

theorem ofItems_eq_map (docs : List Json) :
    (ofItems docs : List (ApiValue φ)) = docs.map ofJson := by
  induction docs with
  | nil => rfl
  | cons doc rest ih => rw [ofItems, ih, List.map_cons]

theorem ofFields_eq_map (docs : List (String × Json)) :
    (ofFields docs : List (String × ApiValue φ)) = docs.map fun d => (d.1, ofJson d.2) := by
  induction docs with
  | nil => rfl
  | cons doc rest ih => rw [ofFields, ih, List.map_cons]

theorem reaches_ofJson_arr {docs : List Json} {position : Nat} {doc : Json} {path : List Place}
    (hd : docs[position]? = some doc) (h : Reaches (ofJson doc) path y) :
    Reaches (ofJson (.arr docs)) (.item position :: path) y := by
  refine .item ?_ h
  rw [ofItems_eq_map, List.getElem?_map, hd]
  rfl

theorem reaches_ofJson_obj {docs : List (String × Json)} {doc : Json} {path : List Place}
    (hd : (name, doc) ∈ docs) (h : Reaches (ofJson doc) path y) :
    Reaches (ofJson (.obj docs)) (.field name :: path) y := by
  refine .entry ?_ h
  rw [ofFields_eq_map]
  exact List.mem_map_of_mem hd

/-- What becomes of a node stands at its place. -/
theorem Reaches.serialize {path : List Place} (h : Reaches x path y) (hj : serialize x = .ok j) :
    ∃ k, ApiValue.serialize y = .ok k ∧ Reaches (ofJson j : ApiValue φ) path (ofJson k) := by
  induction h generalizing j with
  | here x => exact ⟨j, hj, .here _⟩
  | item hx _ ih =>
    cases serialize_eq_ok_iff.1 hj with
    | list hdocs =>
      obtain ⟨doc, hd, hs⟩ := getElem?_of_forall₂ hdocs hx
      obtain ⟨k, hk, hr⟩ := ih hs
      exact ⟨k, hk, reaches_ofJson_arr hd hr⟩
  | entry hx _ ih =>
    cases serialize_eq_ok_iff.1 hj with
    | mapping hdocs =>
      obtain ⟨⟨name, doc⟩, hd, rfl, hs⟩ := exists_related_of_forall₂ hdocs hx
      obtain ⟨k, hk, hr⟩ := ih hs
      exact ⟨k, hk, reaches_ofJson_obj hd hr⟩
  | field hx hset _ ih =>
    cases serialize_eq_ok_iff.1 hj with
    | object hdocs =>
      obtain ⟨⟨name, doc⟩, hd, rfl, hs⟩ :=
        exists_related_of_forall₂ hdocs (mem_filledFields.2 ⟨hx, hset⟩)
      obtain ⟨k, hk, hr⟩ := ih hs
      exact ⟨k, hk, reaches_ofJson_obj hd hr⟩

/-- What stands at a place of a document has become of the node there. -/
theorem Reaches.of_ofJson {path : List Place} (h : Reaches (ofJson j) path y)
    (hj : ApiValue.serialize x = .ok j) :
    ∃ z k, Reaches x path z ∧ ApiValue.serialize z = .ok k ∧ y = ofJson k := by
  -- The induction is on the way down, on which the tree and its document keep together.
  generalize hroot : (ofJson j : ApiValue φ) = root at h
  induction h generalizing x j with
  | here => exact ⟨x, j, .here x, hj, hroot.symm⟩
  | item hx _ ih =>
    cases j <;> cases hroot
    rw [ofItems_eq_map, List.getElem?_map] at hx
    obtain ⟨doc, hd, hdoc⟩ := Option.map_eq_some_iff.1 hx
    cases serialize_eq_ok_iff.1 hj with
    | list hdocs =>
      obtain ⟨item, hi, hs⟩ := getElem?_of_forall₂ hdocs.flip hd
      obtain ⟨z, k, hr, hk⟩ := ih hs hdoc
      exact ⟨z, k, .item hi hr, hk⟩
  | entry hx _ ih =>
    cases j <;> cases hroot
    rw [ofFields_eq_map] at hx
    obtain ⟨⟨name, doc⟩, hd, hdoc⟩ := List.mem_map.1 hx
    cases hdoc
    -- A mapping of a document comes from a mapping or from an object.
    cases serialize_eq_ok_iff.1 hj with
    | mapping hdocs =>
      obtain ⟨⟨name, value⟩, he, rfl, hs⟩ := exists_mem_of_forall₂ hdocs hd
      obtain ⟨z, k, hr, hk⟩ := ih hs rfl
      exact ⟨z, k, .entry he hr, hk⟩
    | object hdocs =>
      obtain ⟨⟨name, value⟩, he, rfl, hs⟩ := exists_mem_of_forall₂ hdocs hd
      obtain ⟨hm, hset⟩ := mem_filledFields.1 he
      obtain ⟨z, k, hr, hk⟩ := ih hs rfl
      exact ⟨z, k, .field hm hset hr, hk⟩
  | field => cases j <;> cases hroot

theorem sizeOf_lt_of_mem_entries (h : (name, x) ∈ entries) : sizeOf x < sizeOf entries := by
  have hentry := List.sizeOf_lt_of_mem h
  rw [Prod.mk.sizeOf_spec] at hentry
  omega

/-- The foreign value that a tree fails with is in the tree. -/
theorem reaches_foreign_of_error (x : ApiValue φ) (h : serialize x = .error e) :
    ∃ path, Reaches x path (.foreign e) := by
  match x with
  | .foreign value =>
    cases h
    exact ⟨[], .here _⟩
  | .list items =>
    rw [serialize, serializeItems_eq_mapM] at h
    obtain ⟨item, hi, he⟩ := mapM_eq_error (bind_pure_eq_error.1 h)
    obtain ⟨path, hr⟩ := reaches_foreign_of_error item he
    obtain ⟨position, hp⟩ := List.getElem?_of_mem hi
    exact ⟨_, .item hp hr⟩
  | .mapping entries =>
    rw [serialize, serializeEntries_eq_mapM] at h
    obtain ⟨⟨name, value⟩, hv, he⟩ := mapM_eq_error (bind_pure_eq_error.1 h)
    have hsize := sizeOf_lt_of_mem_entries hv
    obtain ⟨path, hr⟩ := reaches_foreign_of_error value (serializeEntry_eq_error.1 he)
    exact ⟨_, .entry hv hr⟩
  | .object _ fields =>
    rw [serialize, serializeFields_eq_mapM] at h
    obtain ⟨⟨name, value⟩, hv, he⟩ := mapM_eq_error (bind_pure_eq_error.1 h)
    obtain ⟨hm, hset⟩ := mem_filledFields.1 hv
    have hsize := sizeOf_lt_of_mem_entries hm
    obtain ⟨path, hr⟩ := reaches_foreign_of_error value (serializeEntry_eq_error.1 he)
    exact ⟨_, .field hm hset hr⟩
  | .null | .bool _ | .int _ | .float _ | .str _ | .date .. | .moment .. => cases h
termination_by sizeOf x

/-! ### Documents as trees -/

mutual

theorem serialize_ofJson : ∀ doc : Json, serialize (ofJson doc : ApiValue φ) = .ok doc
  | .null | .bool _ | .int _ | .float _ | .str _ => rfl
  | .arr docs => by
    rw [ofJson, serialize, serializeItems_ofItems docs]
    rfl
  | .obj docs => by
    rw [ofJson, serialize, serializeEntries_ofFields docs]
    rfl

theorem serializeItems_ofItems :
    ∀ docs : List Json, serializeItems (ofItems docs : List (ApiValue φ)) = .ok docs
  | [] => rfl
  | doc :: rest => by
    rw [ofItems, serializeItems, serialize_ofJson doc, serializeItems_ofItems rest]
    rfl

theorem serializeEntries_ofFields : ∀ docs : List (String × Json),
    serializeEntries (ofFields docs : List (String × ApiValue φ)) = .ok docs
  | [] => rfl
  | (name, doc) :: rest => by
    rw [ofFields, serializeEntries, serialize_ofJson doc, serializeEntries_ofFields rest]
    rfl

end

theorem eq_null_of_serialize (h : serialize x = .ok .null) : x = null := by
  cases serialize_eq_ok_iff.1 h
  rfl

/-- A mapping or an object in which every name stands once. -/
def NamesOnce : ApiValue φ → Prop
  | mapping entries => (Table.names entries).Nodup
  | object _ fields => (Table.names fields).Nodup
  | _ => True

theorem names_of_written {docs : List (String × Json)} (h : List.Forall₂ Written entries docs) :
    Table.names docs = Table.names entries := by
  induction h with
  | nil => rfl
  | cons hw _ ih => exact congrArg₂ List.cons hw.1 ih

theorem names_filledFields_sublist (fields : List (String × ApiValue φ)) :
    (Table.names (filledFields fields)).Sublist (Table.names fields) := by
  induction fields with
  | nil => exact .slnil
  | cons field rest ih =>
    rw [filledFields, List.filterMap_cons]
    cases field.2.set? with
    | none => exact ih.cons _
    | some value => exact ih.cons_cons _

theorem NamesOnce.serialize (h : x.NamesOnce) (hj : ApiValue.serialize x = .ok j) :
    (ofJson j : ApiValue φ).NamesOnce := by
  have hnames (docs : List (String × Json)) :
      Table.names (ofFields docs : List (String × ApiValue φ)) = Table.names docs := by
    rw [ofFields_eq_map, Table.names, List.map_map]
    rfl
  cases serialize_eq_ok_iff.1 hj with
  | mapping hdocs =>
    rw [ofJson, NamesOnce, hnames, names_of_written hdocs]
    exact h
  | object hdocs =>
    rw [ofJson, NamesOnce, hnames, names_of_written hdocs]
    exact h.sublist (names_filledFields_sublist _)
  | _ => trivial

end ApiValue

open ApiValue

variable {φ : Type}

/-- The attributes that are set, in the order of the class, with their names in documents. -/
def ApiClass.setAttributes (cls : ApiClass) (values : Table (ApiValue φ)) :
    List (String × ApiValue φ) :=
  cls.attributes.filterMap fun a => ((Table.get? values a.1).bind set?).map (a.2, ·)

theorem ApiClass.becomes_object {cls : ApiClass} {values : Table (ApiValue φ)} {j : Json}
    (h : Becomes (cls.object values) j) :
    ∃ docs, j = .obj docs ∧ List.Forall₂ Written (cls.setAttributes values) docs := by
  have hfields : filledFields (cls.attributes.map fun a =>
      (a.2, (Table.get? values a.1).getD .null)) = cls.setAttributes values := by
    rw [filledFields, List.filterMap_map]
    refine List.filterMap_congr fun a _ => ?_
    change (((Table.get? values a.1).getD .null).set?).map _ = _
    cases Table.get? values a.1 <;> rfl
  rw [ApiClass.object] at h
  cases h with
  | object hdocs => exact ⟨_, rfl, hfields ▸ hdocs⟩

namespace ApiValue

/-- A document as the projection of a tree: it has no objects and is its own document, at every
place stands what has become of the node there, and just the nulls are left that are not fields of
objects. -/
structure Projected (x : ApiValue φ) (j : Json) : Prop where
  plain : ∀ path className fields,
    ¬ Reaches (ofJson j : ApiValue φ) path (.object className fields)
  fixed : serialize (ofJson j : ApiValue φ) = .ok j
  places : ∀ path y, Reaches x path y →
    ∃ k, Becomes y k ∧ Reaches (ofJson j : ApiValue φ) path (ofJson k)
  objects : ∀ path (cls : ApiClass) values, Reaches x path (cls.object values) →
    ∃ docs, List.Forall₂ Written (cls.setAttributes values) docs ∧
      Reaches (ofJson j : ApiValue φ) path (ofJson (.obj docs))
  nulls : ∀ path, Reaches (ofJson j : ApiValue φ) path .null ↔ Reaches x path .null
  names : (∀ path y, Reaches x path y → y.NamesOnce) →
    ∀ path y, Reaches (ofJson j : ApiValue φ) path y → y.NamesOnce

theorem projected {x : ApiValue φ} {j : Json} (hj : serialize x = .ok j) : Projected x j := by
  have hplaces (path : List Place) (y : ApiValue φ) (h : Reaches x path y) :
      ∃ k, Becomes y k ∧ Reaches (ofJson j : ApiValue φ) path (ofJson k) := by
    obtain ⟨k, hk, hr⟩ := h.serialize hj
    exact ⟨k, serialize_eq_ok_iff.1 hk, hr⟩
  refine ⟨fun path className fields h => ?_, serialize_ofJson j, hplaces,
    fun path cls values h => ?_, fun path => ⟨fun h => ?_, fun h => ?_⟩, fun hx path y h => ?_⟩
  · obtain ⟨z, k, -, -, hk⟩ := h.of_ofJson hj
    cases k <;> cases hk
  · obtain ⟨k, hk, hr⟩ := hplaces _ _ h
    obtain ⟨docs, rfl, hdocs⟩ := ApiClass.becomes_object hk
    exact ⟨docs, hdocs, hr⟩
  · obtain ⟨z, k, hr, hs, hk⟩ := h.of_ofJson hj
    cases k <;> cases hk
    exact eq_null_of_serialize hs ▸ hr
  · obtain ⟨k, hk, hr⟩ := hplaces _ _ h
    cases hk
    exact hr
  · obtain ⟨z, k, hr, hs, rfl⟩ := h.of_ofJson hj
    exact (hx path z hr).serialize hs

/-- A tree has a document unless something foreign is in it, and the document is its projection. -/
theorem serialize_projects (x : ApiValue φ) :
    ((∃ e, serialize x = .error e) ↔ ∃ path e, Reaches x path (.foreign e)) ∧
      ∀ j, serialize x = .ok j → Projected x j := by
  refine ⟨⟨fun ⟨e, h⟩ => ?_, fun ⟨path, e, h⟩ => ?_⟩, fun j => projected⟩
  · obtain ⟨path, hr⟩ := reaches_foreign_of_error x h
    exact ⟨path, e, hr⟩
  · cases hx : serialize x with
    | error cause => exact ⟨cause, rfl⟩
    | ok j =>
      obtain ⟨k, hk, -⟩ := h.serialize hx
      cases hk

/-! ### A tree with nulls in all kinds of nodes -/

/-- A variable without a value, which comes from a source, beside a null in a mapping and one in a
list. -/
def mixedTree (source : ApiValue String) : ApiValue String :=
  .list [ApiClass.envVar.object [("value_from", source), ("name", .str "NAME")],
    .mapping [("key", .date 2024 2 29), ("gone", .null)], .null]

theorem mixedTree_projects :
    Projected (mixedTree .null) (.arr [.obj [("name", .str "NAME")],
        .obj [("key", .str "2024-02-29"), ("gone", .null)], .null]) ∧
      ∃ path e, Reaches (mixedTree (.foreign "object")) path (.foreign e) := by
  refine ⟨(serialize_projects (mixedTree .null)).2 _ ?_,
    (serialize_projects (mixedTree (.foreign "object"))).1.1 ⟨"object", rfl⟩⟩
  have hdate : dateText 2024 2 29 = "2024-02-29" := by decide +kernel
  rw [← hdate]
  rfl

end ApiValue

end ScenarioCompiler
