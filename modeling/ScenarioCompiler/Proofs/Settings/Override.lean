import ScenarioCompiler.Proofs.Outcome
import ScenarioCompiler.Proofs.Table
import ScenarioCompiler.Settings.Override

namespace ScenarioCompiler.Override

open Schema (Shape)

variable {shape fieldShape : Shape} {source raw segment name start : String}
  {path rest fields : List String} {overrides others : Table Override}

/-! ### Paths -/

/-- The fields that the parts of a path name, up to the first part that is no field. -/
def reach (shape : Shape) : List String → List String
  | [] => []
  | segment :: rest =>
    match field? shape segment with
    | none => []
    | some (name, fieldShape) => name :: reach fieldShape rest

/-- Some part of the path is no field of the record that the parts before it lead to. -/
def Unmapped (shape : Shape) (path : List String) : Prop :=
  (reach shape path).length < path.length

/-- The path leads into the record that the given fields lead to. -/
def Enters (shape : Shape) (path fields : List String) : Prop :=
  fields <+: reach shape path ∧ fields.length < path.length

/-- The path is that of a field on the way along the given ones. -/
def Covers (shape : Shape) (path fields : List String) : Prop :=
  path ≠ [] ∧ ¬ Unmapped shape path ∧ reach shape path <+: fields

instance : Decidable (Unmapped shape path) := inferInstanceAs (Decidable (_ < _))

instance : Decidable (Enters shape path fields) := inferInstanceAs (Decidable (_ ∧ _))

instance : Decidable (Covers shape path fields) := inferInstanceAs (Decidable (_ ∧ _ ∧ _))

theorem reach_of_none (h : field? shape segment = none) : reach shape (segment :: rest) = [] := by
  rw [reach, h]

theorem reach_of_some (h : field? shape segment = some (name, fieldShape)) :
    reach shape (segment :: rest) = name :: reach fieldShape rest := by
  rw [reach, h]

theorem unmapped_cons (h : field? shape segment = some (name, fieldShape)) :
    Unmapped shape (segment :: rest) ↔ Unmapped fieldShape rest := by
  simp [Unmapped, reach_of_some h]

theorem covers_single (h : field? shape segment = some (name, fieldShape)) :
    Covers shape [segment] (name :: fields) := by
  refine ⟨List.cons_ne_nil _ _, ?_, ?_⟩
  · rw [unmapped_cons h]
    exact Nat.lt_irrefl _
  · rw [reach_of_some h]
    exact List.cons_prefix_cons.2 ⟨rfl, List.nil_prefix⟩

theorem Covers.cons (h : field? shape segment = some (name, fieldShape))
    (hc : Covers fieldShape rest fields) : Covers shape (segment :: rest) (name :: fields) := by
  refine ⟨List.cons_ne_nil _ _, (unmapped_cons h).not.2 hc.2.1, ?_⟩
  rw [reach_of_some h]
  exact List.cons_prefix_cons.2 ⟨rfl, hc.2.2⟩

/-! ### Adding a variable -/

/-- What adding a variable makes of the override of the field that its path begins with. -/
def change (source raw : String) (fieldShape : Shape) :
    List String → Option Override → Except Conflict Override
  | [], some (.nested owner _) => .error ⟨owner, source⟩
  | [], _ => .ok (.value source raw)
  | _ :: _, some (.value first _) => .error ⟨first, source⟩
  | path@(_ :: _), some (.nested owner inner) =>
    (insert source raw fieldShape inner path).map (.nested owner)
  | path@(_ :: _), none => (insert source raw fieldShape [] path).map (.nested source)

theorem insert_of_none (h : field? shape segment = none) :
    insert source raw shape overrides (segment :: rest) = .ok overrides := by
  cases rest <;> simp [insert, h]

theorem insert_of_some (h : field? shape segment = some (name, fieldShape)) :
    insert source raw shape overrides (segment :: rest) =
      (change source raw fieldShape rest (Table.get? overrides name)).map
        (Table.put overrides name) := by
  cases rest with
  | nil =>
    simp only [insert, h]
    rcases Table.get? overrides name with _ | _ | _ <;> rfl
  | cons next rest =>
    rw [insert, h]
    · simp only
      rcases Table.get? overrides name with _ | _ | ⟨owner, inner⟩
      · simp only [change]
        cases insert source raw fieldShape [] (next :: rest) <;> rfl
      · rfl
      · simp only [change]
        cases insert source raw fieldShape inner (next :: rest) <;> rfl
    · simp

/-- An addition changes nothing, or the override of one field. -/
theorem of_insert_cons {result : Table Override}
    (h : insert source raw shape overrides (segment :: rest) = .ok result) :
    result = overrides ∨ ∃ name fieldShape x, field? shape segment = some (name, fieldShape) ∧
      change source raw fieldShape rest (Table.get? overrides name) = .ok x ∧
      result = Table.put overrides name x := by
  cases hs : field? shape segment with
  | none => exact .inl (Except.ok.inj ((insert_of_none hs).symm.trans h)).symm
  | some field =>
    rw [insert_of_some hs, map_eq_ok] at h
    obtain ⟨x, hx, rfl⟩ := h
    exact .inr ⟨_, _, x, rfl, hx, rfl⟩

/-- The overrides of a record that none or several variables set fields of. -/
def entriesOf? : Option Override → Option (Table Override)
  | none => some []
  | some (.nested _ entries) => some entries
  | some (.value ..) => none

theorem entriesOf?_eq_some {current : Option Override} {inner : Table Override} :
    entriesOf? current = some inner ↔
      current = none ∧ inner = [] ∨ ∃ owner, current = some (.nested owner inner) := by
  rcases current with _ | _ | ⟨owner, entries⟩ <;> simp [entriesOf?, eq_comm]

theorem change_of_entries (source raw : String) (fieldShape : Shape) {current : Option Override}
    {inner : Table Override} (h : entriesOf? current = some inner) (hr : rest ≠ []) :
    ∃ owner, change source raw fieldShape rest current =
      (insert source raw fieldShape inner rest).map (.nested owner) := by
  obtain ⟨next, rest, rfl⟩ := List.exists_cons_of_ne_nil hr
  match current with
  | none => exact ⟨source, by rw [change, ← Option.some.inj h]⟩
  | some (.nested owner _) => exact ⟨owner, by rw [change, ← Option.some.inj h]⟩

/-- A path that goes on beyond a field leads into a record. -/
theorem of_change_of_ne_nil {current : Option Override} {x : Override} (hr : rest ≠ [])
    (h : change source raw fieldShape rest current = .ok x) : ∃ owner inner result,
      entriesOf? current = some inner ∧ insert source raw fieldShape inner rest = .ok result ∧
        x = .nested owner result := by
  cases hi : entriesOf? current with
  | none =>
    obtain ⟨next, rest, rfl⟩ := List.exists_cons_of_ne_nil hr
    rcases current with _ | _ | _ <;> simp [entriesOf?, change] at hi h
  | some inner =>
    obtain ⟨owner, ho⟩ := change_of_entries source raw fieldShape hi hr
    obtain ⟨result, hok, rfl⟩ := map_eq_ok.1 (ho.symm.trans h)
    exact ⟨owner, inner, result, rfl, hok, rfl⟩

/-! ### Overrides that differ along a path -/

/-- No variable sets a field on the way along the given ones. -/
def Free : List String → Table Override → Prop
  | [], _ => True
  | name :: rest, overrides =>
    ∃ inner, entriesOf? (Table.get? overrides name) = some inner ∧ Free rest inner

/-- Overrides that differ from others in nothing but records along the given fields, which they
all have. -/
def Agrees : List String → Table Override → Table Override → Prop
  | [], overrides, others => overrides = others
  | name :: rest, overrides, others =>
    Table.without overrides name = Table.without others name ∧
      ∃ owner inner, Table.get? overrides name = some (.nested owner inner) ∧
        ∃ other, entriesOf? (Table.get? others name) = some other ∧ Agrees rest inner other

theorem Agrees.get? (h : Agrees (name :: rest) overrides others) {other : String}
    (hne : other ≠ name) : Table.get? overrides other = Table.get? others other := by
  rw [← Table.get?_without hne, h.1, Table.get?_without hne]

theorem Agrees.put_other (h : Agrees (name :: rest) overrides others) {other : String}
    (hne : other ≠ name) (x : Override) :
    Agrees (name :: rest) (Table.put overrides other x) (Table.put others other x) := by
  obtain ⟨hw, owner, inner, hg, otherInner, ho, hin⟩ := h
  refine ⟨?_, owner, inner, ?_, otherInner, ?_, hin⟩
  · rw [Table.without_put hne, Table.without_put hne, hw]
  · rw [Table.get?_put, if_neg (Ne.symm hne), hg]
  · rw [Table.get?_put, if_neg (Ne.symm hne), ho]

theorem agrees_put_nested (hw : Table.without overrides name = Table.without others name)
    {inner otherInner : Table Override} (h : Agrees rest inner otherInner)
    (owner otherOwner : String) :
    Agrees (name :: rest) (Table.put overrides name (.nested owner inner))
      (Table.put others name (.nested otherOwner otherInner)) := by
  refine ⟨?_, owner, inner, ?_, otherInner, ?_, h⟩
  · rw [Table.without_put_self, Table.without_put_self, hw]
  · rw [Table.get?_put, if_pos rfl]
  · rw [Table.get?_put, if_pos rfl]
    rfl

/-- A variable that is not mapped leaves records along the fields that it reaches. -/
theorem insert_of_unmapped (source raw : String) (hu : Unmapped shape path)
    (hf : Free (reach shape path) overrides) : ∃ result,
      insert source raw shape overrides path = .ok result ∧
        Agrees (reach shape path) result overrides := by
  induction path generalizing shape overrides with
  | nil => exact absurd hu (Nat.lt_irrefl _)
  | cons segment rest ih =>
    cases h : field? shape segment with
    | none =>
      rw [reach_of_none h, insert_of_none h]
      exact ⟨_, rfl, rfl⟩
    | some field =>
      obtain ⟨name, fieldShape⟩ := field
      rw [reach_of_some h] at hf ⊢
      obtain ⟨inner, hi, hf⟩ := hf
      have hr : Unmapped fieldShape rest := (unmapped_cons h).1 hu
      -- the path goes on, since the part that is no field is still to come
      have hne : rest ≠ [] := by
        rintro rfl
        exact absurd hr (Nat.lt_irrefl _)
      obtain ⟨result, hok, ha⟩ := ih hr hf
      obtain ⟨owner, hchange⟩ := change_of_entries source raw fieldShape hi hne
      refine ⟨_, by rw [insert_of_some h, hchange, hok]; rfl, Table.without_put_self, owner, result,
        ?_, inner, hi, ha⟩
      rw [Table.get?_put, if_pos rfl]

/-- Overrides that agree still do so after the addition of a variable that sets no field on the
way. -/
theorem Agrees.insert (source raw : String) (ha : Agrees fields overrides others)
    (hc : ¬ Covers shape path fields) :
    (∃ c, insert source raw shape overrides path = .error c ∧
      insert source raw shape others path = .error c) ∨
    ∃ result other, insert source raw shape overrides path = .ok result ∧
      insert source raw shape others path = .ok other ∧ Agrees fields result other := by
  induction path generalizing shape fields overrides others with
  | nil => exact .inr ⟨_, _, rfl, rfl, ha⟩
  | cons segment rest ih =>
    cases h : field? shape segment with
    | none => exact .inr ⟨_, _, insert_of_none h, insert_of_none h, ha⟩
    | some field =>
      obtain ⟨name, fieldShape⟩ := field
      cases fields with
      | nil =>
        cases (show overrides = others from ha)
        cases hi : Override.insert source raw shape overrides (segment :: rest) with
        | error c => exact .inl ⟨c, rfl, rfl⟩
        | ok result => exact .inr ⟨result, result, rfl, rfl, rfl⟩
      | cons first fields =>
        rw [insert_of_some h, insert_of_some h]
        by_cases hne : name = first
        · -- both paths lead into the same record, and this one does not end with its field
          subst hne
          obtain ⟨hw, owner, inner, hg, other, ho, hin⟩ := ha
          have hr : rest ≠ [] := by
            rintro rfl
            exact hc (covers_single h)
          have hi : entriesOf? (Table.get? overrides name) = some inner := by rw [hg]; rfl
          obtain ⟨first, hfirst⟩ := change_of_entries source raw fieldShape hi hr
          obtain ⟨second, hsecond⟩ := change_of_entries source raw fieldShape ho hr
          rw [hfirst, hsecond]
          rcases ih hin fun hin => hc (hin.cons h) with ⟨c, he, he'⟩ | ⟨r, r', he, he', har⟩
          · exact .inl ⟨c, by rw [he]; rfl, by rw [he']; rfl⟩
          · exact .inr ⟨_, _, by rw [he]; rfl, by rw [he']; rfl, agrees_put_nested hw har _ _⟩
        · rw [ha.get? hne]
          cases change source raw fieldShape rest (Table.get? others name) with
          | error c => exact .inl ⟨c, rfl, rfl⟩
          | ok x => exact .inr ⟨_, _, rfl, rfl, ha.put_other hne x⟩

/-! ### What additions keep -/

theorem free_nil (fields : List String) : Free fields [] := by
  induction fields with
  | nil => trivial
  | cons name rest ih => exact ⟨[], rfl, ih⟩

theorem Free.insert {result : Table Override} (hf : Free fields overrides)
    (hc : ¬ Covers shape path fields)
    (h : insert source raw shape overrides path = .ok result) : Free fields result := by
  induction path generalizing shape fields overrides result with
  | nil => exact Except.ok.inj h ▸ hf
  | cons segment rest ih =>
    rcases of_insert_cons h with rfl | ⟨name, fieldShape, x, hs, hx, rfl⟩
    · exact hf
    cases fields with
    | nil => trivial
    | cons first fields =>
      obtain ⟨inner, hi, hf⟩ := hf
      by_cases hne : name = first
      · subst hne
        -- a path that ended here would cover the fields
        have hr : rest ≠ [] := by
          rintro rfl
          exact hc (covers_single hs)
        obtain ⟨owner, _, inner', hi', hin, rfl⟩ := of_change_of_ne_nil hr hx
        obtain rfl := Option.some.inj (hi.symm.trans hi')
        refine ⟨inner', ?_, ih hf (fun hc' => hc (hc'.cons hs)) hin⟩
        rw [Table.get?_put, if_pos rfl]
        rfl
      · refine ⟨inner, ?_, hf⟩
        rw [Table.get?_put, if_neg (Ne.symm hne), hi]

/-- Variables set fields of the record that the given fields lead to. -/
def NestedAt : List String → Table Override → Prop
  | [], _ => True
  | name :: rest, overrides =>
    ∃ owner inner, Table.get? overrides name = some (.nested owner inner) ∧ NestedAt rest inner

theorem of_change_eq_nested {current : Option Override} {owner : String}
    {result : Table Override}
    (h : change source raw fieldShape rest current = .ok (.nested owner result)) :
    ∃ inner, entriesOf? current = some inner ∧
      insert source raw fieldShape inner rest = .ok result := by
  cases rest with
  | nil => rcases current with _ | _ | _ <;> simp [change] at h
  | cons next rest =>
    rcases current with _ | _ | ⟨first, inner⟩
    · obtain ⟨_, hr, he⟩ := map_eq_ok.1 h
      cases he
      exact ⟨[], rfl, hr⟩
    · simp [change] at h
    · obtain ⟨_, hr, he⟩ := map_eq_ok.1 h
      cases he
      exact ⟨inner, rfl, hr⟩

theorem change_of_nested {owner : String} {inner : Table Override} {x : Override}
    (h : change source raw fieldShape rest (some (.nested owner inner)) = .ok x) :
    ∃ result, insert source raw fieldShape inner rest = .ok result ∧ x = .nested owner result := by
  cases rest with
  | nil => simp [change] at h
  | cons next rest =>
    obtain ⟨result, hr, rfl⟩ := map_eq_ok.1 h
    exact ⟨result, hr, rfl⟩

theorem NestedAt.insert {result : Table Override} (hn : NestedAt fields overrides)
    (h : insert source raw shape overrides path = .ok result) : NestedAt fields result := by
  induction path generalizing shape fields overrides result with
  | nil => exact Except.ok.inj h ▸ hn
  | cons segment rest ih =>
    rcases of_insert_cons h with rfl | ⟨name, fieldShape, x, -, hx, rfl⟩
    · exact hn
    cases fields with
    | nil => trivial
    | cons first fields =>
      obtain ⟨owner, inner, hg, hn⟩ := hn
      by_cases hne : first = name
      · subst hne
        rw [hg] at hx
        obtain ⟨inner', hin, rfl⟩ := change_of_nested hx
        exact ⟨owner, inner', by rw [Table.get?_put, if_pos rfl], ih hn hin⟩
      · exact ⟨owner, inner, by rw [Table.get?_put, if_neg hne, hg], hn⟩

theorem nestedAt_of_enters {result : Table Override} (he : Enters shape path fields)
    (h : insert source raw shape overrides path = .ok result) : NestedAt fields result := by
  induction path generalizing shape fields overrides result with
  | nil => exact absurd he.2 (Nat.not_lt_zero _)
  | cons segment rest ih =>
    cases fields with
    | nil => trivial
    | cons first fields =>
      obtain ⟨hp, hl⟩ := he
      cases hs : field? shape segment with
      | none => simp [reach_of_none hs] at hp
      | some field =>
        obtain ⟨name, fieldShape⟩ := field
        rw [reach_of_some hs] at hp
        obtain ⟨rfl, hrest⟩ := List.cons_prefix_cons.1 hp
        rw [insert_of_some hs, map_eq_ok] at h
        obtain ⟨x, hx, rfl⟩ := h
        have hl : fields.length < rest.length := by simpa using hl
        have hr : rest ≠ [] := List.ne_nil_of_length_pos (Nat.zero_lt_of_lt hl)
        obtain ⟨owner, _, inner, -, hin, rfl⟩ := of_change_of_ne_nil hr hx
        exact ⟨owner, inner, by rw [Table.get?_put, if_pos rfl], ih ⟨hrest, hl⟩ hin⟩

/-- The names of fields are distinct in every record. -/
inductive Tidy : Table Override → Prop
  | intro {overrides : Table Override} (names_nodup : (Table.names overrides).Nodup)
      (inner : ∀ name owner entries, (name, .nested owner entries) ∈ overrides → Tidy entries) :
      Tidy overrides

theorem tidy_nil : Tidy [] := ⟨List.nodup_nil, by simp⟩

theorem Tidy.names_nodup (h : Tidy overrides) : (Table.names overrides).Nodup := by
  cases h with
  | intro hn _ => exact hn

theorem Tidy.of_mem (h : Tidy overrides) {owner : String} {entries : Table Override}
    (hm : (name, .nested owner entries) ∈ overrides) : Tidy entries := by
  cases h with
  | intro _ hi => exact hi _ _ _ hm

theorem Tidy.put (h : Tidy overrides) {x : Override}
    (hx : ∀ owner entries, x = .nested owner entries → Tidy entries) :
    Tidy (Table.put overrides name x) := by
  refine ⟨Table.nodup_names_put h.names_nodup _ _, fun other owner entries hm => ?_⟩
  rcases Table.mem_put hm with he | hm
  · exact hx owner entries (Prod.mk.inj he).2.symm
  · exact h.of_mem hm

theorem Tidy.insert {result : Table Override} (ht : Tidy overrides)
    (h : insert source raw shape overrides path = .ok result) : Tidy result := by
  induction path generalizing shape overrides result with
  | nil => exact Except.ok.inj h ▸ ht
  | cons segment rest ih =>
    rcases of_insert_cons h with rfl | ⟨name, fieldShape, x, -, hx, rfl⟩
    · exact ht
    refine ht.put fun owner entries he => ?_
    subst he
    obtain ⟨inner, hi, hin⟩ := of_change_eq_nested hx
    refine ih ?_ hin
    rcases entriesOf?_eq_some.1 hi with ⟨-, rfl⟩ | ⟨first, hg⟩
    · exact tidy_nil
    · exact ht.of_mem (Table.mem_of_get?_eq_some hg)

end ScenarioCompiler.Override
