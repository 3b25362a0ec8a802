import Mathlib.Data.List.Nodup
import ScenarioCompiler.Proofs.Json.Field
import ScenarioCompiler.Proofs.Table
import ScenarioCompiler.Workflow.ApiClass

namespace ScenarioCompiler

namespace ApiValue

variable {φ : Type}

/-- The value of a field, unless it is not set. -/
def set? : ApiValue φ → Option (ApiValue φ)
  | null => none
  | x => some x

theorem set?_eq_some {x y : ApiValue φ} : x.set? = some y ↔ x = y ∧ x ≠ null := by
  cases x <;> simp [set?]

theorem set?_ofOption {α : Type} {f : α → ApiValue φ} (h : ∀ x, f x ≠ null) (o : Option α) :
    (ofOption f o).set? = o.map f := by
  cases o with
  | none => rfl
  | some x => exact set?_eq_some.2 ⟨rfl, h x⟩

theorem serialize_eq_ok (x : ApiValue Empty) : serialize x = .ok x.document := by
  unfold document
  cases serialize x with
  | ok json => rfl
  | error e => nomatch e

@[simp] theorem document_str (s : String) : (str s : ApiValue Empty).document = .str s := rfl

@[simp] theorem document_int (n : Int) : (int n : ApiValue Empty).document = .int n := rfl

theorem serializeItems_eq_ok (items : List (ApiValue Empty)) :
    serializeItems items = .ok (items.map document) := by
  induction items with
  | nil => rfl
  | cons item rest ih =>
    rw [serializeItems, serialize_eq_ok, ih]
    rfl

theorem serializeEntries_eq_ok (entries : List (String × ApiValue Empty)) :
    serializeEntries entries = .ok (entries.map fun e => (e.1, e.2.document)) := by
  induction entries with
  | nil => rfl
  | cons entry rest ih =>
    rw [serializeEntries, serialize_eq_ok, ih]
    rfl

theorem serializeFields_eq_ok (fields : List (String × ApiValue Empty)) :
    serializeFields fields =
      .ok (fields.filterMap fun f => f.2.set?.map fun x => (f.1, x.document)) := by
  induction fields with
  | nil => rfl
  | cons field rest ih =>
    obtain ⟨name, value⟩ := field
    cases value with
    | null => rw [serializeFields, ih]; rfl
    | _ =>
      rw [serializeFields, serialize_eq_ok, ih]
      · rfl
      · simp

@[simp] theorem document_list (items : List (ApiValue Empty)) :
    (list items).document = .arr (items.map document) := by
  rw [document, serialize, serializeItems_eq_ok]
  rfl

@[simp] theorem document_mapping (entries : List (String × ApiValue Empty)) :
    (mapping entries).document = .obj (entries.map fun e => (e.1, e.2.document)) := by
  rw [document, serialize, serializeEntries_eq_ok]
  rfl

/-- The document of an object has the fields that are set. -/
theorem document_object (name : String) (fields : List (String × ApiValue Empty)) :
    (object name fields).document =
      .obj (fields.filterMap fun f => f.2.set?.map fun x => (f.1, x.document)) := by
  rw [document, serialize, serializeFields_eq_ok]
  rfl

/-- A value that brings no null into the document of an object it is a field of. -/
def Settled (x : ApiValue Empty) : Prop := x = null ∨ x.document.NoNull

theorem settled_str (s : String) : Settled (str s) := .inr (by simp)

theorem settled_int (n : Int) : Settled (int n) := .inr (by simp)

theorem settled_map {α : Type} {f : α → ApiValue Empty} (h : ∀ x, (f x).document.NoNull)
    (items : List α) : Settled (list (items.map f)) := by
  refine .inr ?_
  rw [document_list, Json.noNull_arr, List.map_map]
  intro item hi
  obtain ⟨x, -, rfl⟩ := List.mem_map.1 hi
  exact h x

theorem settled_ofStrings (items : List String) : Settled (ofStrings items) :=
  settled_map (fun s => by simp) items

theorem document_ofStrings (items : List String) :
    (ofStrings items : ApiValue Empty).document = .arr (items.map .str) := by
  rw [ofStrings, document_list, List.map_map]
  rfl

theorem document_ofBindings (b : Bindings) :
    (ofBindings b : ApiValue Empty).document = .obj (b.entries.map fun e => (e.1, .str e.2)) := by
  rw [ofBindings, document_mapping, List.map_map]
  rfl

theorem settled_ofBindings (b : Bindings) : Settled (ofBindings b) := by
  refine .inr ?_
  rw [document_ofBindings, Json.noNull_obj]
  intro field hf
  obtain ⟨e, -, rfl⟩ := List.mem_map.1 hf
  simp

theorem settled_ofOption {α : Type} {f : α → ApiValue Empty} (h : ∀ x, Settled (f x))
    (o : Option α) : Settled (ofOption f o) := by
  cases o with
  | none => exact .inl rfl
  | some x => exact h x

theorem noNull_object {name : String} {fields : List (String × ApiValue Empty)}
    (h : ∀ field ∈ fields, Settled field.2) : (object name fields).document.NoNull := by
  rw [document_object, Json.noNull_obj]
  intro entry he
  obtain ⟨⟨_, value⟩, hf, hv⟩ := List.mem_filterMap.1 he
  rcases h _ hf with rfl | hn
  · simp [set?] at hv
  · obtain ⟨x, hx, rfl⟩ := Option.map_eq_some_iff.1 hv
    exact (set?_eq_some.1 hx).1 ▸ hn

end ApiValue

namespace ApiClass

open ApiValue

variable {cls : ApiClass} {values : Table (ApiValue Empty)} {key name : String}

@[simp] theorem object_ne_null (cls : ApiClass) (values : Table (ApiValue Empty)) :
    cls.object values ≠ null := by
  simp [object]

theorem noNull_object (h : ∀ entry ∈ values, Settled entry.2) :
    (cls.object values).document.NoNull := by
  refine ApiValue.noNull_object fun field hf => ?_
  obtain ⟨a, -, rfl⟩ := List.mem_map.1 hf
  change Settled ((Table.get? values a.1).getD .null)
  cases hg : Table.get? values a.1 with
  | none => exact .inl rfl
  | some x => exact h _ (Table.mem_of_get?_eq_some hg)

/-- The fields of a document for attributes with their names there. -/
def setFields (values : Table (ApiValue Empty)) (attributes : List (String × String)) :
    Table Json :=
  attributes.filterMap fun a =>
    ((Table.get? values a.1).bind set?).map fun x => (a.2, x.document)

theorem document_object (cls : ApiClass) (values : Table (ApiValue Empty)) :
    (cls.object values).document = .obj (setFields values cls.attributes) := by
  rw [object, ApiValue.document_object, List.filterMap_map]
  refine congrArg Json.obj (List.filterMap_congr fun a _ => ?_)
  change (((Table.get? values a.1).getD .null).set?).map _ = _
  cases Table.get? values a.1 <;> rfl

theorem names_setFields_subset (values : Table (ApiValue Empty))
    (attributes : List (String × String)) :
    Table.names (setFields values attributes) ⊆ attributes.map (·.2) := by
  intro name hn
  obtain ⟨entry, he, rfl⟩ := List.mem_map.1 hn
  obtain ⟨a, ha, hv⟩ := List.mem_filterMap.1 he
  obtain ⟨x, -, rfl⟩ := Option.map_eq_some_iff.1 hv
  exact List.mem_map_of_mem ha

theorem get?_setFields {attributes : List (String × String)}
    (hn : (attributes.map (·.2)).Nodup) (ha : (key, name) ∈ attributes) :
    Table.get? (setFields values attributes) name =
      ((Table.get? values key).bind set?).map document := by
  induction attributes with
  | nil => simp at ha
  | cons first rest ih =>
    obtain ⟨hnew, hrest⟩ := List.nodup_cons.1 hn
    rw [setFields, List.filterMap_cons]
    rcases List.mem_cons.1 ha with rfl | ha
    · cases hv : (Table.get? values key).bind set? with
      | none =>
        rw [Option.map_none, Option.map_none, Table.get?_eq_none]
        exact fun hm => hnew (names_setFields_subset values rest hm)
      | some x => simp [Table.get?]
    · have hne : first.2 ≠ name := fun he => hnew (List.mem_map.2 ⟨_, ha, he.symm⟩)
      cases hv : (Table.get? values first.1).bind set? with
      | none => exact ih hrest ha
      | some x =>
        rw [Option.map_some, Table.get?, if_neg hne]
        exact ih hrest ha

def classes : List ApiClass := workflowClasses ++ clusterClasses

/-- No class writes two attributes under one name. -/
theorem names_nodup : ∀ cls ∈ classes, (cls.attributes.map (·.2)).Nodup := by
  decide +kernel

/-- An attribute stands in the document under its name there if it is set. -/
theorem field?_object (key : String) (hc : cls ∈ classes) (ha : (key, name) ∈ cls.attributes) :
    (cls.object values).document.field? name =
      ((Table.get? values key).bind set?).map document := by
  rw [document_object, Json.field?_obj]
  exact get?_setFields (names_nodup cls hc) ha

theorem field?_object_option {α : Type} {f : α → ApiValue Empty} {o : Option α} (key : String)
    (hc : cls ∈ classes) (ha : (key, name) ∈ cls.attributes)
    (hv : Table.get? values key = some (ofOption f o)) (hf : ∀ x, f x ≠ null) :
    (cls.object values).document.field? name = o.map fun x => (f x).document := by
  rw [field?_object key hc ha, hv, Option.bind_some, set?_ofOption hf, Option.map_map]
  rfl

theorem field?_object_list {α : Type} {f : α → ApiValue Empty} {items : List α} (key : String)
    (hc : cls ∈ classes) (ha : (key, name) ∈ cls.attributes)
    (hv : Table.get? values key = some (.list (items.map f))) :
    (cls.object values).document.field? name =
      some (.arr (items.map fun x => (f x).document)) := by
  have hset : (ApiValue.list (items.map f)).set? = some (.list (items.map f)) := rfl
  rw [field?_object key hc ha, hv, Option.bind_some, hset, Option.map_some, document_list,
    List.map_map]
  rfl

theorem field?_object_strings {o : Option (List String)} (key : String)
    (hc : cls ∈ classes) (ha : (key, name) ∈ cls.attributes)
    (hv : Table.get? values key = some (ofOption ofStrings o)) :
    (cls.object values).document.field? name = o.map fun items => .arr (items.map .str) := by
  rw [field?_object_option key hc ha hv (by simp [ofStrings])]
  simp only [document_ofStrings]

end ApiClass

end ScenarioCompiler
