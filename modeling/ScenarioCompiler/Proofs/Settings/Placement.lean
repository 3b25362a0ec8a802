import ScenarioCompiler.Proofs.Settings.Overlay
import ScenarioCompiler.Settings.Schema

namespace ScenarioCompiler

open Settings (Alike)

namespace Schema

/-! ### Fields of a shape -/

mutual

/-- Whether the names of fields are distinct in every record. -/
def Shape.distinct : Shape → Bool
  | .value => true
  | .record fields => decide (Table.names fields).Nodup && Shape.distinctAll fields

def Shape.distinctAll : List (String × Shape) → Bool
  | [] => true
  | (_, s) :: rest => s.distinct && Shape.distinctAll rest

end

/-- The names lead from field to field. -/
def Within : Shape → List String → Prop
  | _, [] => True
  | .value, _ :: _ => False
  | .record fields, name :: rest =>
    name ∈ Table.names fields ∧ ∀ s, (name, s) ∈ fields → Within s rest

theorem distinct_of_mem {fields : List (String × Shape)} (h : Shape.distinctAll fields = true)
    {field : String × Shape} (hm : field ∈ fields) : field.2.distinct = true := by
  induction fields with
  | nil => exact absurd hm List.not_mem_nil
  | cons first rest ih =>
    rw [Shape.distinctAll, Bool.and_eq_true] at h
    rcases List.mem_cons.1 hm with rfl | hm
    · exact h.1
    · exact ih h.2 hm

theorem of_field?_eq_some {shape fieldShape : Shape} {segment name : String}
    (h : Override.field? shape segment = some (name, fieldShape)) :
    ∃ fields, shape = .record fields ∧ (name, fieldShape) ∈ fields := by
  cases shape with
  | value => simp [Override.field?] at h
  | record fields => exact ⟨fields, rfl, List.mem_of_find?_eq_some h⟩

theorem within_reach {shape : Shape} (h : shape.distinct = true) (path : List String) :
    Within shape (Override.reach shape path) := by
  induction path generalizing shape with
  | nil => simp [Override.reach, Within]
  | cons segment rest ih =>
    cases hs : Override.field? shape segment with
    | none => simp [Override.reach_of_none hs, Within]
    | some field =>
      obtain ⟨name, fieldShape⟩ := field
      obtain ⟨fields, rfl, hm⟩ := of_field?_eq_some hs
      rw [Shape.distinct, Bool.and_eq_true, decide_eq_true_eq] at h
      rw [Override.reach_of_some hs]
      refine ⟨List.mem_map_of_mem hm, fun s hs => ?_⟩
      obtain rfl : s = fieldShape :=
        (Prod.mk.inj (List.inj_on_of_nodup_map h.1 hs hm rfl)).2
      exact ih (distinct_of_mem h.2 hm)

/-! ### Decoders for which the places of records do not matter -/

variable {α β : Type} {name other : String} {rest : List String}
  {first second : List (Datum × Datum)}

def Decoder.Placeless (d : Decoder α) : Prop :=
  ∀ fields first second, Within d.shape fields → Alike fields first second →
    d.read (.map first) = d.read (.map second)

def Fields.Placeless (f : Fields α) : Prop :=
  ∀ name rest first second, (∀ s, (name, s) ∈ f.shapes → Within s rest) →
    Alike (name :: rest) first second → f.read first = f.read second

theorem entry?_of_alike (h : Alike (name :: rest) first second) (hne : other ≠ name) :
    Datum.entry? first other = Datum.entry? second other := by
  rw [← Datum.entry?_without hne, h.1, Datum.entry?_without hne]

/-- What a field reads from mappings that are alike is the same. -/
theorem read_entry_of_alike {d : Decoder α} (hd : d.Placeless) {field : String}
    (hw : ∀ s, (field, s) ∈ [(name, d.shape)] → Within s rest)
    (ha : Alike (field :: rest) first second) :
    Datum.entry? first name = Datum.entry? second name ∨
      ∃ inner other, Datum.entry? first name = some (.map inner) ∧
        Datum.entry? second name = some (.map other) ∧
        d.read (.map inner) = d.read (.map other) := by
  by_cases hn : name = field
  · subst hn
    obtain ⟨-, inner, other, hi, ho, ha⟩ := ha
    have hw := hw _ (List.mem_singleton_self _)
    exact .inr ⟨inner, other, hi, ho, hd rest inner other hw ha⟩
  · exact .inl (entry?_of_alike ha hn)

namespace Fields

theorem placeless_required {d : Decoder α} (hd : d.Placeless) (name : String) :
    (required name d).Placeless := by
  intro field rest first second hw ha
  rcases read_entry_of_alike hd hw ha with h | ⟨inner, other, hi, ho, hread⟩
  · simp only [required, h]
  · simp only [required, hi, ho, hread]

theorem placeless_withDefault {d : Decoder α} (hd : d.Placeless) (name : String)
    (default : α) : (withDefault name d default).Placeless := by
  intro field rest first second hw ha
  rcases read_entry_of_alike hd hw ha with h | ⟨inner, other, hi, ho, hread⟩
  · simp only [withDefault, h]
  · simp only [withDefault, hi, ho, hread]

theorem placeless_optional {d : Decoder α} (hd : d.Placeless) (name : String) :
    (optional name d).Placeless := by
  intro field rest first second hw ha
  rcases read_entry_of_alike hd hw ha with h | ⟨inner, other, hi, ho, hread⟩
  · simp only [optional, h]
  · simp only [optional, hi, ho, hread]

theorem placeless_map {x : Fields α} (hx : x.Placeless) (f : α → β) :
    (f <$> x).Placeless := by
  intro name rest first second hw ha
  exact congrArg (Except.map f) (hx name rest first second hw ha)

theorem placeless_seq {f : Fields (α → β)} {x : Unit → Fields α} (hf : f.Placeless)
    (hx : (x ()).Placeless) : (Seq.seq f x).Placeless := by
  intro name rest first second hw ha
  have hwf : ∀ s, (name, s) ∈ f.shapes → Within s rest :=
    fun s hs => hw s (List.mem_append_left _ hs)
  have hwx : ∀ s, (name, s) ∈ (x ()).shapes → Within s rest :=
    fun s hs => hw s (List.mem_append_right _ hs)
  exact congrArg₂ Checked.seq (hf name rest first second hwf ha) (hx name rest first second hwx ha)

end Fields

theorem extraProblems_without {names : List String} (h : name ∈ names)
    (entries : List (Datum × Datum)) :
    extraProblems names (Datum.without entries name) = extraProblems names entries := by
  induction entries with
  | nil => rfl
  | cons entry rest ih =>
    rw [Datum.without_cons]
    obtain ⟨key, value⟩ := entry
    by_cases hk : key.sameKey (.str name)
    · cases Datum.sameKey_str.1 hk
      rw [if_pos hk, ih, extraProblems, if_pos (List.contains_iff_mem.2 h)]
    · rw [if_neg hk]
      cases key <;> simp [extraProblems, ih]

namespace Decoder

theorem placeless_of_value {d : Decoder α} (h : d.shape = .value) : d.Placeless := by
  intro fields first second hw ha
  cases fields with
  | nil => exact congrArg (fun entries => d.read (.map entries)) ha
  | cons name rest =>
    rw [h] at hw
    exact hw.elim

theorem placeless_record {fields : Fields α} (hf : fields.Placeless) (name : String)
    (extras : Extras) : (record name extras fields).Placeless := by
  intro path first second hw ha
  cases path with
  | nil => exact congrArg (fun entries => (record name extras fields).read (.map entries)) ha
  | cons field rest =>
    have hread := hf field rest first second hw.2 ha
    have hname : field ∈ fields.names := hw.1
    have hextra : extraProblems fields.names first = extraProblems fields.names second := by
      rw [← extraProblems_without hname, ha.1, extraProblems_without hname]
    simp only [record, hread, hextra]

end Decoder

end Schema

namespace PlatformSettings

open Schema.Decoder Schema.Fields

/-- Settings do not depend on the order in which a document gives the fields of a record. -/
theorem placeless : decoder.Placeless := by
  repeat' first
    | exact placeless_of_value rfl
    | apply placeless_record
    | apply placeless_seq
    | apply placeless_map
    | apply placeless_required
    | apply placeless_withDefault
    | apply placeless_optional

theorem distinct_shape : decoder.shape.distinct = true := by decide +kernel

end PlatformSettings

end ScenarioCompiler
