import ScenarioCompiler.Proofs.Settings.Override

namespace ScenarioCompiler.Override

open Schema (Shape)

variable {shape : Shape} {source raw name segment : String} {path other rest fields : List String}
  {overrides result : Table Override} {current : Option Override} {x : Override} {c : Conflict}

/-! ### Paths in a tree -/

/-- What stands at the end of a path from a field on that has the given override. -/
def at? : Option Override → List String → Option Override
  | current, [] => current
  | some (.nested _ inner), name :: rest => at? (Table.get? inner name) rest
  | _, _ :: _ => none

/-- What stands at a path. -/
def node? (overrides : Table Override) : List String → Option Override
  | [] => none
  | name :: rest => at? (Table.get? overrides name) rest

@[simp] theorem at?_nil : at? current [] = current := by
  rw [at?]

@[simp] theorem at?_none : at? none path = none := by
  cases path <;> simp [at?]

@[simp] theorem at?_value_cons : at? (some (.value source raw)) (name :: rest) = none := by
  simp [at?]

@[simp] theorem at?_nested_cons {owner : String} {inner : Table Override} :
    at? (some (.nested owner inner)) (name :: rest) = at? (Table.get? inner name) rest := by
  rw [at?]

theorem at?_append : at? current (path ++ other) = at? (at? current path) other := by
  induction path generalizing current with
  | nil => simp
  | cons name rest ih =>
    rw [List.cons_append]
    rcases current with _ | _ | ⟨owner, inner⟩
    · simp
    · simp
    · simpa using ih

theorem node?_eq_at? (owner : String) (hne : path ≠ []) :
    node? overrides path = at? (some (.nested owner overrides)) path := by
  obtain ⟨name, rest, rfl⟩ := List.exists_cons_of_ne_nil hne
  rw [node?, at?_nested_cons]

theorem at?_nested_eq_value {owner s r : String} :
    at? (some (.nested owner overrides)) path = some (.value s r) ↔
      node? overrides path = some (.value s r) := by
  cases path <;> simp [node?]

theorem node?_of_value {s r : String} (hg : Table.get? overrides name = some (.value s r)) :
    node? overrides [name] = some (.value s r) := by
  rw [node?, hg, at?_nil]

/-- The values below a record are those of its overrides. -/
theorem node?_eq_value_of_nested {owner s r : String} {inner : Table Override}
    (hg : Table.get? overrides name = some (.nested owner inner)) :
    node? overrides (name :: path) = some (.value s r) ↔ node? inner path = some (.value s r) := by
  rw [node?, hg, at?_nested_eq_value]

/-- Below a value stands nothing. -/
theorem of_node?_of_value {s r : String} (hg : Table.get? overrides name = some (.value s r))
    (h : node? overrides (name :: path) = some x) : path = [] ∧ x = .value s r := by
  rw [node?, hg] at h
  cases path with
  | nil => exact ⟨rfl, (Option.some.inj h).symm⟩
  | cons => simp at h

theorem node?_of_none (hg : Table.get? overrides name = none) :
    node? overrides (name :: path) = none := by
  rw [node?, hg, at?_none]

/-- The field at the first path contains the field at the second. -/
def Contains (path other : List String) : Prop := path <+: other ∧ path ≠ other

theorem contains_iff : Contains path other ↔ ∃ name rest, other = path ++ name :: rest := by
  constructor
  · rintro ⟨⟨rest, rfl⟩, hne⟩
    cases rest with
    | nil => exact absurd (List.append_nil path).symm hne
    | cons name rest => exact ⟨name, rest, rfl⟩
  · rintro ⟨name, rest, rfl⟩
    exact ⟨List.prefix_append _ _, by simp⟩

theorem contains_nil_cons : Contains [] (name :: rest) := ⟨List.nil_prefix, by simp⟩

theorem Contains.cons (h : Contains path other) : Contains (name :: path) (name :: other) := by
  refine ⟨List.cons_prefix_cons.2 ⟨rfl, h.1⟩, fun he => h.2 ?_⟩
  exact (List.cons.inj he).2

/-- Nothing stands below a value. -/
theorem node?_of_contains {s r : String} (hp : node? overrides path = some (.value s r))
    (hc : Contains path other) : node? overrides other = none := by
  obtain ⟨name, rest, rfl⟩ := contains_iff.1 hc
  cases path with
  | nil => simp [node?] at hp
  | cons first path =>
    rw [node?] at hp
    rw [List.cons_append, node?, at?_append, hp, at?_value_cons]

/-! ### Setting a field -/

/-- What a variable that sets a field makes of the override of the field that its path begins
with: it adds to a record, but a value does not give way to a record, nor a record to a value. -/
def place (source raw : String) : List String → Option Override → Except Conflict Override
  | [], some (.nested owner _) => .error ⟨owner, source⟩
  | [], _ => .ok (.value source raw)
  | _ :: _, some (.value first _) => .error ⟨first, source⟩
  | name :: rest, some (.nested owner inner) =>
    (place source raw rest (Table.get? inner name)).map fun x => .nested owner
      (Table.put inner name x)
  | name :: rest, none =>
    (place source raw rest none).map fun x => .nested source [(name, x)]

theorem exists_field_of_mapped (hm : ¬ Unmapped shape (segment :: rest)) :
    ∃ name fieldShape, field? shape segment = some (name, fieldShape) ∧
      ¬ Unmapped fieldShape rest := by
  cases h : field? shape segment with
  | none => exact absurd (by simp [Unmapped, reach_of_none h]) hm
  | some field => exact ⟨field.1, field.2, rfl, (unmapped_cons h).not.1 hm⟩

theorem change_eq_place (hm : ¬ Unmapped shape path) :
    change source raw shape path current = place source raw (reach shape path) current := by
  -- no part of the path is passed over, since every one of them is a field
  induction path generalizing shape current with
  | nil => rcases current with _ | _ | _ <;> rfl
  | cons segment rest ih =>
    obtain ⟨name, fieldShape, hf, hr⟩ := exists_field_of_mapped hm
    rw [reach_of_some hf]
    rcases current with _ | _ | ⟨owner, inner⟩
    · rw [change, insert_of_some hf, ih hr, place, Table.get?]
      cases place source raw (reach fieldShape rest) none <;> rfl
    · rfl
    · rw [change, insert_of_some hf, ih hr, place]
      cases place source raw (reach fieldShape rest) (Table.get? inner name) <;> rfl

/-- In a record, a variable sets the field at the end of its path as below a field. -/
theorem insert_eq_place (source raw : String) (overrides : Table Override) (owner : String)
    (hm : ¬ Unmapped shape path) (hne : path ≠ []) :
    (insert source raw shape overrides path).map (.nested owner) =
      place source raw (reach shape path) (some (.nested owner overrides)) := by
  obtain ⟨segment, rest, rfl⟩ := List.exists_cons_of_ne_nil hne
  rw [← change_eq_place hm, change]

/-- The record that a variable adds to in order to set a field of it: the one that is there, or a
new one that the variable owns. -/
def Opens (source : String) (current : Option Override) (owner : String)
    (inner : Table Override) : Prop :=
  current = some (.nested owner inner) ∨ current = none ∧ owner = source ∧ inner = []

theorem of_place_cons (h : place source raw (name :: rest) current = .ok x) :
    ∃ owner inner y, Opens source current owner inner ∧
      place source raw rest (Table.get? inner name) = .ok y ∧
      x = .nested owner (Table.put inner name y) := by
  rcases current with _ | _ | ⟨owner, inner⟩
  · obtain ⟨y, hy, rfl⟩ := map_eq_ok.1 h
    exact ⟨source, [], y, .inr ⟨rfl, rfl, rfl⟩, hy, rfl⟩
  · cases h
  · obtain ⟨y, hy, rfl⟩ := map_eq_ok.1 h
    exact ⟨owner, inner, y, .inl rfl, hy, rfl⟩

theorem Opens.at?_cons {owner : String} {inner : Table Override}
    (h : Opens source current owner inner) :
    at? current (name :: rest) = at? (Table.get? inner name) rest := by
  rcases h with rfl | ⟨rfl, -, rfl⟩ <;> simp [Table.get?]

/-- Below the field that was set stands what was placed, elsewhere what was there. -/
theorem Opens.at?_put {owner : String} {inner : Table Override}
    (h : Opens source current owner inner) (y : Override) (first : String) (path : List String) :
    at? (some (.nested owner (Table.put inner name y))) (first :: path) =
      if first = name then at? (some y) path else at? current (first :: path) := by
  rw [at?_nested_cons, Table.get?_put, h.at?_cons]
  split <;> rfl

/-- The values after a variable was added are its own one, and the old ones at other paths. -/
theorem at?_place_eq_value {s r : String} (h : place source raw fields current = .ok x) :
    at? (some x) path = some (.value s r) ↔
      fields = path ∧ source = s ∧ raw = r ∨
        fields ≠ path ∧ at? current path = some (.value s r) := by
  induction fields generalizing current x path with
  | nil =>
    -- a value took the place of nothing or of another value, and nothing stands below either
    have hx : x = .value source raw ∧ ∀ owner inner, current ≠ some (.nested owner inner) := by
      rcases current with _ | _ | _ <;> simp_all [place]
    obtain ⟨rfl, hcurrent⟩ := hx
    cases path with
    | nil => simp
    | cons first path => rcases current with _ | _ | _ <;> simp_all
  | cons name rest ih =>
    obtain ⟨owner, inner, y, ho, hy, rfl⟩ := of_place_cons h
    cases path with
    | nil => rcases ho with rfl | ⟨rfl, -, -⟩ <;> simp
    | cons first path =>
      rw [ho.at?_put]
      by_cases hn : first = name
      · subst hn
        rw [if_pos rfl, ih hy, ho.at?_cons]
        simp
      · rw [if_neg hn]
        simp [Ne.symm hn]

/-- The records after a variable was added are the old ones, with more in those on its way, and
new ones on its way, which it owns. -/
theorem of_at?_place_eq_nested {owner : String} {inner : Table Override}
    (h : place source raw fields current = .ok x)
    (ha : at? (some x) path = some (.nested owner inner)) :
    at? current path = some (.nested owner inner) ∨ inner ≠ [] ∧
      ((∃ known, at? current path = some (.nested owner known)) ∨
        owner = source ∧ Contains path fields) := by
  induction fields generalizing current x path with
  | nil =>
    have hx : x = .value source raw := by
      rcases current with _ | _ | _ <;> simp_all [place]
    subst hx
    cases path <;> simp at ha
  | cons name rest ih =>
    obtain ⟨first, known, y, ho, hy, rfl⟩ := of_place_cons h
    cases path with
    | nil =>
      -- the record in which the field is set
      cases ha
      have hne : Table.put known name y ≠ [] := fun he => by
        have hg : Table.get? (Table.put known name y) name = some y := by simp [Table.get?_put]
        simp [he, Table.get?] at hg
      rcases ho with rfl | ⟨rfl, rfl, rfl⟩
      · exact .inr ⟨hne, .inl ⟨known, rfl⟩⟩
      · exact .inr ⟨hne, .inr ⟨rfl, contains_nil_cons⟩⟩
    | cons other path =>
      rw [ho.at?_put] at ha
      by_cases hn : other = name
      · subst hn
        rw [if_pos rfl] at ha
        rw [ho.at?_cons]
        rcases ih hy ha with ha | ⟨hi, ha | ⟨hs, hc⟩⟩
        · exact .inl ha
        · exact .inr ⟨hi, .inl ha⟩
        · exact .inr ⟨hi, .inr ⟨hs, hc.cons⟩⟩
      · rw [if_neg hn] at ha
        exact .inl ha

/-- A variable is rejected for a value on its way, or for a record at its end. -/
theorem of_place_eq_error (h : place source raw fields current = .error c) :
    c.second = source ∧
      ((∃ path r, at? current path = some (.value c.first r) ∧ Contains path fields) ∨
        ∃ inner, at? current fields = some (.nested c.first inner)) := by
  induction fields generalizing current with
  | nil =>
    rcases current with _ | _ | ⟨owner, inner⟩
    · cases h
    · cases h
    · cases h
      exact ⟨rfl, .inr ⟨inner, rfl⟩⟩
  | cons name rest ih =>
    rcases current with _ | ⟨first, r⟩ | ⟨owner, inner⟩
    · obtain ⟨hs, hbelow⟩ := ih (map_eq_error.1 h)
      simp at hbelow
    · cases h
      exact ⟨rfl, .inl ⟨[], r, rfl, contains_nil_cons⟩⟩
    · obtain ⟨hs, ⟨path, r, ha, hc⟩ | ⟨known, ha⟩⟩ := ih (map_eq_error.1 h)
      · exact ⟨hs, .inl ⟨name :: path, r, at?_nested_cons.trans ha, hc.cons⟩⟩
      · exact ⟨hs, .inr ⟨known, at?_nested_cons.trans ha⟩⟩

/-! ### Adding a mapped variable -/

theorem reach_ne_nil (hm : ¬ Unmapped shape path) (hne : path ≠ []) : reach shape path ≠ [] := by
  intro he
  rw [Unmapped, he] at hm
  exact hm (List.length_pos_iff.2 hne)

/-- The variable sets the field that the parts of its name lead to. -/
theorem node?_insert_eq_value {s r : String} (hm : ¬ Unmapped shape path) (hne : path ≠ [])
    (h : insert source raw shape overrides path = .ok result) :
    node? result other = some (.value s r) ↔
      reach shape path = other ∧ source = s ∧ raw = r ∨
        reach shape path ≠ other ∧ node? overrides other = some (.value s r) := by
  have hp := insert_eq_place source raw overrides "" hm hne
  rw [h] at hp
  rw [← at?_nested_eq_value, ← at?_nested_eq_value, at?_place_eq_value hp.symm]

theorem of_node?_insert_eq_nested {owner : String} {inner : Table Override}
    (hm : ¬ Unmapped shape path) (hne : path ≠ [])
    (h : insert source raw shape overrides path = .ok result)
    (ha : node? result other = some (.nested owner inner)) :
    node? overrides other = some (.nested owner inner) ∨ inner ≠ [] ∧
      ((∃ known, node? overrides other = some (.nested owner known)) ∨
        owner = source ∧ Contains other (reach shape path)) := by
  have hp := insert_eq_place source raw overrides "" hm hne
  rw [h] at hp
  have hother : other ≠ [] := by
    rintro rfl
    simp [node?] at ha
  rw [node?_eq_at? "" hother] at ha ⊢
  exact of_at?_place_eq_nested hp.symm ha

/-- A variable that cannot be added conflicts with the one that set a value on its way, or with
the owner of the record that it would set. -/
theorem of_insert_eq_error (hm : ¬ Unmapped shape path) (hne : path ≠ [])
    (h : insert source raw shape overrides path = .error c) :
    c.second = source ∧
      ((∃ other r, node? overrides other = some (.value c.first r) ∧
        Contains other (reach shape path)) ∨
      ∃ inner, node? overrides (reach shape path) = some (.nested c.first inner)) := by
  have hp := insert_eq_place source raw overrides "" hm hne
  rw [h] at hp
  obtain ⟨hs, ⟨other, r, ha, hc⟩ | ⟨inner, ha⟩⟩ := of_place_eq_error hp.symm
  · exact ⟨hs, .inl ⟨other, r, at?_nested_eq_value.1 ha, hc⟩⟩
  · exact ⟨hs, .inr ⟨inner, (node?_eq_at? "" (reach_ne_nil hm hne)).trans ha⟩⟩

end ScenarioCompiler.Override
