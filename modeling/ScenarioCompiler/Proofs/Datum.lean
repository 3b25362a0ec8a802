import Mathlib.Logic.Basic
import ScenarioCompiler.Datum
import ScenarioCompiler.Proofs.Outcome

namespace ScenarioCompiler.Datum

variable {entries : List (Datum × Datum)} {key value : Datum} {name other : String}

theorem sameKey_str : key.sameKey (.str name) = true ↔ key = .str name := by
  cases key <;> simp [sameKey, number?]

theorem sameKey_str_str : (str other).sameKey (.str name) = true ↔ other = name := by
  rw [sameKey_str, str.injEq]

theorem entry?_cons (entry : Datum × Datum) (rest : List (Datum × Datum)) (name : String) :
    entry? (entry :: rest) name =
      if entry.1.sameKey (.str name) then some entry.2 else entry? rest name := by
  obtain ⟨key, value⟩ := entry
  cases key <;> simp [sameKey, number?, entry?]

theorem entry?_setEntry : entry? (setEntry entries (.str name) value) other =
    if other = name then some value else entry? entries other := by
  induction entries with
  | nil => simp [setEntry, entry?, eq_comm]
  | cons entry rest ih =>
    rw [setEntry]
    by_cases h : entry.1.sameKey (.str name)
    · rw [if_pos h, entry?_cons, entry?_cons, sameKey_str.1 h]
      by_cases ho : other = name
      · rw [if_pos (sameKey_str_str.2 ho.symm), if_pos ho]
      · rw [if_neg (sameKey_str_str.not.2 (Ne.symm ho)),
          if_neg (sameKey_str_str.not.2 (Ne.symm ho)), if_neg ho]
    · rw [if_neg h, entry?_cons, entry?_cons, ih]
      by_cases ho : other = name
      · rw [if_neg (ho ▸ h), if_pos ho, if_pos ho]
      · rw [if_neg ho, if_neg ho]

/-- The other entries of a mapping. -/
def without (entries : List (Datum × Datum)) (name : String) : List (Datum × Datum) :=
  entries.filter fun e => !e.1.sameKey (.str name)

theorem without_cons (entry : Datum × Datum) (rest : List (Datum × Datum)) (name : String) :
    without (entry :: rest) name =
      if entry.1.sameKey (.str name) then without rest name else entry :: without rest name := by
  cases h : entry.1.sameKey (.str name) <;> simp [without, h]

theorem entry?_without (h : other ≠ name) :
    entry? (without entries name) other = entry? entries other := by
  induction entries with
  | nil => rfl
  | cons entry rest ih =>
    rw [without_cons, entry?_cons]
    by_cases he : entry.1.sameKey (.str name)
    · rw [if_pos he, ih, sameKey_str.1 he, if_neg (sameKey_str_str.not.2 h.symm)]
    · rw [if_neg he, entry?_cons, ih]

theorem without_setEntry_self :
    without (setEntry entries (.str name) value) name = without entries name := by
  have hs : (str name).sameKey (.str name) = true := sameKey_str_str.2 rfl
  induction entries with
  | nil => simp [setEntry, without, hs]
  | cons entry rest ih =>
    rw [setEntry]
    by_cases h : entry.1.sameKey (.str name)
    · rw [if_pos h, without_cons, without_cons, if_pos h, if_pos h]
    · rw [if_neg h, without_cons, without_cons, if_neg h, if_neg h, ih]

theorem without_setEntry (h : other ≠ name) :
    without (setEntry entries (.str other) value) name =
      setEntry (without entries name) (.str other) value := by
  have hd : ¬ (str other).sameKey (.str name) = true := sameKey_str_str.not.2 h
  induction entries with
  | nil => simp [setEntry, without, hd]
  | cons entry rest ih =>
    rw [setEntry]
    by_cases he : entry.1.sameKey (.str other)
    · have hn : ¬ entry.1.sameKey (.str name) = true := sameKey_str.1 he ▸ hd
      rw [if_pos he, without_cons, without_cons, if_neg hn, if_neg hn, setEntry, if_pos he]
    · rw [if_neg he, without_cons, without_cons, ih]
      split
      · rfl
      · rw [setEntry, if_neg he]

/-! ### Values that are the same -/

mutual

/-- Whether two values are the same. -/
def same : Datum → Datum → Bool
  | .null, .null => true
  | .bool a, .bool b | .loop a, .loop b => a == b
  | .int a, .int b => a == b
  | .float a, .float b => a == b
  | .str a, .str b => a == b
  | .bytes a, .bytes b => a == b
  | .date y m d, .date y' m' d' => (y, m, d) == (y', m', d')
  | .moment a, .moment b => a == b
  | .seq a, .seq b | .set a, .set b => sameItems a b
  | .map a, .map b => sameEntries a b
  | _, _ => false

def sameItems : List Datum → List Datum → Bool
  | [], [] => true
  | a :: rest, b :: others => same a b && sameItems rest others
  | _, _ => false

def sameEntries : List (Datum × Datum) → List (Datum × Datum) → Bool
  | [], [] => true
  | (key, a) :: rest, (other, b) :: others =>
    same key other && same a b && sameEntries rest others
  | _, _ => false

end

mutual

theorem same_iff : ∀ {a b : Datum}, same a b = true ↔ a = b
  | .null, b | .bool _, b | .int _, b | .float _, b | .str _, b | .bytes _, b | .date .., b
  | .moment _, b | .loop _, b => by
    cases b <;> simp [same]
  | .seq _, b | .set _, b => by
    cases b <;> simp [same, sameItems_iff]
  | .map _, b => by
    cases b <;> simp [same, sameEntries_iff]

theorem sameItems_iff : ∀ {items others : List Datum},
    sameItems items others = true ↔ items = others
  | [], others => by
    cases others <;> simp [sameItems]
  | _ :: _, others => by
    cases others <;> simp [sameItems, same_iff, sameItems_iff]

theorem sameEntries_iff : ∀ {entries others : List (Datum × Datum)},
    sameEntries entries others = true ↔ entries = others
  | [], others => by
    cases others <;> simp [sameEntries]
  | (_, _) :: _, others => by
    cases others <;> simp [sameEntries, Prod.ext_iff, same_iff, sameEntries_iff]

end

instance : DecidableEq Datum := fun _ _ => decidable_of_iff _ same_iff

/-! ### Values that can be written as JSON -/

/-- A key that has a text: a text, a number or nothing. -/
def HasName : Datum → Prop
  | .str _ | .null | .bool _ | .float _ => True
  | .int n => hasText n = true
  | _ => False

mutual

/-- A value without dates, bytes, sets and loops, whose integers have texts, and whose mappings
have keys that do. -/
def Writable : Datum → Prop
  | .null | .bool _ | .float _ | .str _ => True
  | .int n => hasText n = true
  | .seq items => WritableItems items
  | .map entries => WritableEntries entries
  | .bytes _ | .date .. | .moment _ | .set _ | .loop _ => False

def WritableItems : List Datum → Prop
  | [] => True
  | item :: rest => Writable item ∧ WritableItems rest

def WritableEntries : List (Datum × Datum) → Prop
  | [] => True
  | (key, value) :: rest => HasName key ∧ Writable value ∧ WritableEntries rest

end

theorem exists_ite_eq_ok {α : Type} {p : Bool} {x : α} {fault : JsonFault} :
    (∃ y, (if p then pure x else throw fault : Except JsonFault α) = .ok y) ↔ p = true := by
  cases p
  · exact ⟨fun ⟨_, h⟩ => (nomatch h), fun h => (nomatch h)⟩
  · exact ⟨fun _ => rfl, fun _ => ⟨x, rfl⟩⟩

theorem exists_keyText : ∀ {key : Datum}, (∃ name, keyText key = .ok name) ↔ HasName key
  | .str _ | .null | .bool _ | .float _ => ⟨fun _ => trivial, fun _ => ⟨_, rfl⟩⟩
  | .int _ => by
    rw [keyText, HasName]
    exact exists_ite_eq_ok
  | .bytes _ | .date .. | .moment _ | .seq _ | .set _ | .map _ | .loop _ =>
    ⟨fun ⟨_, h⟩ => (nomatch h), False.elim⟩

mutual

theorem exists_toJson : ∀ value : Datum, (∃ json, value.toJson = .ok json) ↔ value.Writable
  | .null | .bool _ | .float _ | .str _ => ⟨fun _ => trivial, fun _ => ⟨_, rfl⟩⟩
  | .bytes _ | .date .. | .moment _ | .set _ | .loop _ => ⟨fun ⟨_, h⟩ => (nomatch h), False.elim⟩
  | .int _ => by
    rw [toJson, Writable]
    exact exists_ite_eq_ok
  | .seq items => by
    rw [Writable, ← exists_toItems items]
    simp only [toJson, bind_eq_ok, pure_eq_ok]
    exact ⟨fun ⟨_, documents, h, _⟩ => ⟨documents, h⟩, fun ⟨documents, h⟩ => ⟨_, documents, h, rfl⟩⟩
  | .map entries => by
    rw [Writable, ← exists_toFields entries []]
    simp only [toJson, bind_eq_ok, pure_eq_ok]
    exact ⟨fun ⟨_, fields, h, _⟩ => ⟨fields, h⟩, fun ⟨fields, h⟩ => ⟨_, fields, h, rfl⟩⟩

theorem exists_toItems : ∀ items : List Datum,
    (∃ documents, toItems items = .ok documents) ↔ WritableItems items
  | [] => ⟨fun _ => trivial, fun _ => ⟨_, rfl⟩⟩
  | item :: rest => by
    rw [WritableItems, ← exists_toJson item, ← exists_toItems rest]
    simp only [toItems, bind_eq_ok, pure_eq_ok]
    constructor
    · rintro ⟨_, json, hj, documents, hd, -⟩
      exact ⟨⟨json, hj⟩, documents, hd⟩
    · rintro ⟨⟨json, hj⟩, documents, hd⟩
      exact ⟨_, json, hj, documents, hd, rfl⟩

theorem exists_toFields : ∀ (entries : List (Datum × Datum)) (fields : List (String × Json)),
    (∃ result, toFields entries fields = .ok result) ↔ WritableEntries entries
  | [], fields => ⟨fun _ => trivial, fun _ => ⟨_, rfl⟩⟩
  | (key, value) :: rest, fields => by
    rw [WritableEntries, ← exists_keyText, ← exists_toJson value]
    simp only [toFields, bind_eq_ok]
    constructor
    · rintro ⟨result, name, hn, json, hj, hr⟩
      exact ⟨⟨name, hn⟩, ⟨json, hj⟩, (exists_toFields rest _).1 ⟨result, hr⟩⟩
    · rintro ⟨⟨name, hn⟩, ⟨json, hj⟩, hr⟩
      obtain ⟨result, hr⟩ := (exists_toFields rest (Table.put fields name json)).2 hr
      exact ⟨result, name, hn, json, hj, hr⟩

end

theorem writable_seq {items : List Datum} :
    (seq items).Writable ↔ ∀ item ∈ items, item.Writable := by
  rw [Writable]
  induction items with
  | nil => simp [WritableItems]
  | cons item rest ih => rw [WritableItems, ih, List.forall_mem_cons]

theorem writable_map :
    (map entries).Writable ↔ ∀ entry ∈ entries, HasName entry.1 ∧ entry.2.Writable := by
  rw [Writable]
  induction entries with
  | nil => simp [WritableEntries]
  | cons entry rest ih => rw [WritableEntries, ih, List.forall_mem_cons, and_assoc]

theorem HasName.writable (h : HasName key) : key.Writable := by
  cases key <;> first | exact h | exact h.elim

end ScenarioCompiler.Datum
