import ScenarioCompiler.Proofs.Json.DropNulls

namespace ScenarioCompiler.Json

mutual

/-- The names in a document, at any depth. -/
def allNames : Json → List String
  | .arr items => itemNames items
  | .obj fields => fieldNames fields
  | .null | .bool _ | .int _ | .float _ | .str _ => []

def itemNames : List Json → List String
  | [] => []
  | item :: rest => allNames item ++ itemNames rest

def fieldNames : List (String × Json) → List String
  | [] => []
  | (name, value) :: rest => name :: allNames value ++ fieldNames rest

end

mutual

/-- How deeply lists and objects are nested. -/
def height : Json → Nat
  | .arr items => itemsHeight items + 1
  | .obj fields => fieldsHeight fields + 1
  | .null | .bool _ | .int _ | .float _ | .str _ => 0

def itemsHeight : List Json → Nat
  | [] => 0
  | item :: rest => max (height item) (itemsHeight rest)

def fieldsHeight : List (String × Json) → Nat
  | [] => 0
  | (_, value) :: rest => max (height value) (fieldsHeight rest)

end

/-- A document of a bounded height that its text determines, with a condition on the names in it. -/
structure Keyed (p : String → Prop) (depth : Nat) (document : Json) : Prop where
  plain : document.Plain
  names : ∀ name ∈ document.allNames, p name
  height : document.height ≤ depth

variable {p : String → Prop} {depth : Nat} {items : List Json} {fields : List (String × Json)}

@[simp] theorem keyed_str (s : String) : (str s).Keyed p depth :=
  ⟨plain_str s, by simp [allNames], Nat.zero_le _⟩

theorem keyed_int {n : Int} : (int n).Keyed p depth ↔ n.natAbs < 10 ^ digitLimit := by
  refine ⟨fun h => h.plain, fun h => ⟨h, by simp [allNames], Nat.zero_le _⟩⟩

theorem mem_itemNames {name : String} :
    name ∈ itemNames items ↔ ∃ item ∈ items, name ∈ item.allNames := by
  induction items with
  | nil => simp [itemNames]
  | cons item rest ih => simp [itemNames, ih]

theorem mem_fieldNames {name : String} :
    name ∈ fieldNames fields ↔ ∃ field ∈ fields, name = field.1 ∨ name ∈ field.2.allNames := by
  induction fields with
  | nil => simp [fieldNames]
  | cons field rest ih => simp [fieldNames, ih, or_assoc]

theorem itemsHeight_le : itemsHeight items ≤ depth ↔ ∀ item ∈ items, item.height ≤ depth := by
  induction items with
  | nil => simp [itemsHeight]
  | cons item rest ih => rw [itemsHeight, Nat.max_le, ih, List.forall_mem_cons]

theorem fieldsHeight_le :
    fieldsHeight fields ≤ depth ↔ ∀ field ∈ fields, field.2.height ≤ depth := by
  induction fields with
  | nil => simp [fieldsHeight]
  | cons field rest ih => rw [fieldsHeight, Nat.max_le, ih, List.forall_mem_cons]

theorem keyed_arr : (arr items).Keyed p (depth + 1) ↔ ∀ item ∈ items, item.Keyed p depth := by
  constructor
  · rintro ⟨hp, hn, hh⟩ item hi
    refine ⟨plain_arr.1 hp item hi, fun name hm => hn name (mem_itemNames.2 ⟨item, hi, hm⟩), ?_⟩
    exact itemsHeight_le.1 (Nat.le_of_succ_le_succ hh) item hi
  · intro h
    refine ⟨plain_arr.2 fun item hi => (h item hi).plain, fun name hm => ?_,
      Nat.succ_le_succ (itemsHeight_le.2 fun item hi => (h item hi).height)⟩
    obtain ⟨item, hi, hm⟩ := mem_itemNames.1 hm
    exact (h item hi).names name hm

theorem keyed_obj : (obj fields).Keyed p (depth + 1) ↔
    (Table.names fields).Nodup ∧ ∀ field ∈ fields, p field.1 ∧ field.2.Keyed p depth := by
  constructor
  · rintro ⟨hp, hn, hh⟩
    obtain ⟨hd, hp⟩ := plain_obj.1 hp
    refine ⟨hd, fun field hf => ⟨hn _ (mem_fieldNames.2 ⟨field, hf, .inl rfl⟩), hp field hf,
      fun name hm => hn name (mem_fieldNames.2 ⟨field, hf, .inr hm⟩), ?_⟩⟩
    exact fieldsHeight_le.1 (Nat.le_of_succ_le_succ hh) field hf
  · rintro ⟨hd, h⟩
    refine ⟨plain_obj.2 ⟨hd, fun field hf => (h field hf).2.plain⟩, fun name hm => ?_,
      Nat.succ_le_succ (fieldsHeight_le.2 fun field hf => (h field hf).2.height)⟩
    obtain ⟨field, hf, rfl | hm⟩ := mem_fieldNames.1 hm
    · exact (h field hf).1
    · exact (h field hf).2.names name hm

end ScenarioCompiler.Json
