import ScenarioCompiler.Proofs.Json.RoundTrip

namespace ScenarioCompiler.Json

variable {fields : List (String × Json)} {name : String} {items : List Json}

/-! ### Documents without null fields -/

/-- What becomes of the value of a field. -/
def kept? : Json → Option Json
  | .null => none
  | value => some value.dropNulls

theorem kept?_of_ne_null {value : Json} (h : value ≠ .null) :
    value.kept? = some value.dropNulls := by
  unfold kept?
  split
  · exact absurd rfl h
  · rfl

theorem dropNullFields_eq_filterMap (fields : List (String × Json)) :
    dropNullFields fields = fields.filterMap fun f => f.2.kept?.map (f.1, ·) := by
  induction fields with
  | nil => rfl
  | cons field rest ih =>
    obtain ⟨name, value⟩ := field
    cases value <;> simp [dropNullFields, kept?, ih]

theorem names_dropNullFields_sublist (fields : List (String × Json)) :
    (Table.names (dropNullFields fields)).Sublist (Table.names fields) := by
  induction fields with
  | nil => exact List.Sublist.slnil
  | cons field rest ih =>
    rw [dropNullFields_eq_filterMap] at ih ⊢
    rw [List.filterMap_cons]
    cases field.2.kept? with
    | none => exact ih.cons _
    | some value => exact ih.cons_cons _

/-- A field that is not null is there, without its own null fields. -/
theorem get?_dropNullFields (hd : (Table.names fields).Nodup) :
    Table.get? (dropNullFields fields) name = (Table.get? fields name).bind kept? := by
  induction fields with
  | nil => rfl
  | cons field rest ih =>
    obtain ⟨hn, hr⟩ := List.nodup_cons.1 hd
    specialize ih hr
    rw [dropNullFields_eq_filterMap] at ih ⊢
    rw [List.filterMap_cons, Table.get?]
    by_cases he : field.1 = name
    · rw [if_pos he, Option.bind_some]
      cases hk : field.2.kept? with
      | none =>
        have hnone : Table.get? rest name = none := Table.get?_eq_none.2 (he ▸ hn)
        simp [ih, hnone]
      | some value => simp [Table.get?, he]
    · rw [if_neg he, ← ih]
      cases field.2.kept? with
      | none => rfl
      | some value => simp [Table.get?, he]

/-! ### Documents that their texts determine -/

theorem plain_arr : (arr items).Plain ↔ ∀ item ∈ items, item.Plain := by
  rw [Plain]
  induction items with
  | nil => simp [PlainItems]
  | cons item rest ih => rw [PlainItems, ih, List.forall_mem_cons]

theorem plainFields_iff : PlainFields fields ↔ ∀ field ∈ fields, field.2.Plain := by
  induction fields with
  | nil => simp [PlainFields]
  | cons field rest ih => rw [PlainFields, ih, List.forall_mem_cons]

theorem plain_obj :
    (obj fields).Plain ↔ (Table.names fields).Nodup ∧ ∀ field ∈ fields, field.2.Plain := by
  rw [Plain, plainFields_iff]

@[simp] theorem plain_str (s : String) : (str s).Plain := by simp [Plain]

@[simp] theorem plain_bool (b : Bool) : (bool b).Plain := by simp [Plain]

@[simp] theorem plain_null : null.Plain := by simp [Plain]

mutual

theorem plain_dropNulls : ∀ {j : Json}, j.Plain → j.dropNulls.Plain
  | .null, h | .bool _, h | .int _, h | .float _, h | .str _, h => h
  | .arr items, h => by
    rw [dropNulls]
    exact plainItems_dropNullItems h
  | .obj fields, h => by
    rw [Plain] at h
    rw [dropNulls, Plain]
    exact ⟨h.1.sublist (names_dropNullFields_sublist fields), plainFields_dropNullFields h.2⟩

theorem plainItems_dropNullItems : ∀ {items : List Json}, PlainItems items →
    PlainItems (dropNullItems items)
  | [], _ => trivial
  | _ :: _, h => ⟨plain_dropNulls h.1, plainItems_dropNullItems h.2⟩

theorem plainFields_dropNullFields : ∀ {fields : List (String × Json)}, PlainFields fields →
    PlainFields (dropNullFields fields)
  | [], _ => trivial
  | (_, value) :: _, h => by
    have hrest := plainFields_dropNullFields h.2
    cases value with
    | null => exact hrest
    | _ => exact ⟨plain_dropNulls h.1, hrest⟩

end

end ScenarioCompiler.Json
