import ScenarioCompiler.Proofs.Datum
import ScenarioCompiler.Proofs.Settings.Override
import ScenarioCompiler.Settings.Load

namespace ScenarioCompiler.Settings

open Schema (PathItem)
open Override (Agrees NestedAt Tidy)

/-! ### The merge in two parts

The merge fails or not whatever the settings are, and what it makes of them needs no failures. -/

/-- The values that overrides set in the mapping at `path`. -/
def originsOf (path : List PathItem) : List (String × Override) → List Origin
  | [] => []
  | (name, .nested _ entries) :: rest =>
    originsOf (path ++ [.name name]) entries ++ originsOf path rest
  | (name, .value source raw) :: rest =>
    ⟨path ++ [.name name], source, raw⟩ :: originsOf path rest

variable {path : List PathItem} {settings : List (Datum × Datum)}
  {overrides others : List (String × Override)} {name : String} {rest fields : List String}

section Loader

variable [Yaml.Loader]

def Readable (raw : String) : Prop := ∃ value, decodeRaw raw = .ok value

/-- The value of a text that is readable. -/
def valueOf (raw : String) : Datum :=
  match decodeRaw raw with
  | .ok value => value
  | .error _ => .null

/-- The entries of a mapping under overrides. -/
def overlay (settings : List (Datum × Datum)) : List (String × Override) → List (Datum × Datum)
  | [] => settings
  | (name, .nested _ entries) :: rest =>
    let inner := overlay (entriesOf (Datum.entry? settings name)) entries
    overlay (Datum.setEntry settings (.str name) (.map inner)) rest
  | (name, .value _ raw) :: rest =>
    overlay (Datum.setEntry settings (.str name) (valueOf raw)) rest

theorem decodeRaw_of_readable {raw : String} (h : Readable raw) :
    decodeRaw raw = .ok (valueOf raw) := by
  obtain ⟨value, hv⟩ := h
  rw [valueOf, hv]

theorem decodeRaw_of_not_readable {raw : String} (h : ¬ Readable raw) :
    ∃ fault, decodeRaw raw = .error (.badValue fault) := by
  cases hd : decodeRaw raw with
  | ok value => exact absurd ⟨value, hd⟩ h
  | error e =>
    unfold decodeRaw at hd
    split at hd <;> cases hd
    exact ⟨_, rfl⟩

/-- The merge is the overlay if all the texts are readable. -/
theorem merge_of_readable (h : ∀ x ∈ originsOf path overrides, Readable x.raw) :
    merge path settings overrides = .ok (overlay settings overrides, originsOf path overrides) := by
  induction path, settings, overrides using merge.induct with
  | case1 => rw [merge, overlay, originsOf]
  | case2 path settings name owner entries rest here ih₁ ih₂ =>
    simp only [originsOf, List.forall_mem_append] at h
    rw [merge, ih₁ h.1, ok_bind]
    dsimp only
    rw [ih₂ _ h.2, ok_bind, overlay, originsOf]
    rfl
  | case3 path settings name source raw rest ih =>
    simp only [originsOf, List.forall_mem_cons] at h
    rw [merge, decodeRaw_of_readable h.1, ok_bind, ih _ h.2, ok_bind, overlay, originsOf]
    rfl

theorem merge_of_not_readable (settings : List (Datum × Datum))
    (h : ∃ x ∈ originsOf path overrides, ¬ Readable x.raw) :
    ∃ fault, merge path settings overrides = .error (.badValue fault) := by
  induction path, settings, overrides using merge.induct with
  | case1 => simp [originsOf] at h
  | case2 path settings name owner entries rest here ih₁ ih₂ =>
    -- the first text that cannot be read is in the record or behind it
    by_cases he : ∀ x ∈ originsOf here entries, Readable x.raw
    · have hr : ∃ x ∈ originsOf path rest, ¬ Readable x.raw := by
        obtain ⟨x, hx, hn⟩ := h
        rw [originsOf] at hx
        exact ⟨x, (List.mem_append.1 hx).resolve_left fun hx => hn (he x hx), hn⟩
      obtain ⟨fault, hf⟩ := ih₂ (overlay (entriesOf (Datum.entry? settings name)) entries) hr
      refine ⟨fault, ?_⟩
      rw [merge, merge_of_readable he, ok_bind]
      dsimp only
      rw [hf, error_bind]
    · obtain ⟨fault, hf⟩ := ih₁ (by simpa using he)
      exact ⟨fault, by rw [merge, hf, error_bind]⟩
  | case3 path settings name source raw rest ih =>
    by_cases hd : Readable raw
    · have hr : ∃ x ∈ originsOf path rest, ¬ Readable x.raw := by
        obtain ⟨x, hx, hn⟩ := h
        rw [originsOf] at hx
        exact ⟨x, (List.mem_cons.1 hx).resolve_left fun he => hn (he ▸ hd), hn⟩
      obtain ⟨fault, hf⟩ := ih (valueOf raw) hr
      exact ⟨fault, by rw [merge, decodeRaw_of_readable hd, ok_bind, hf, error_bind]⟩
    · obtain ⟨fault, hf⟩ := decodeRaw_of_not_readable hd
      exact ⟨fault, by rw [merge, hf, error_bind]⟩

/-! ### Entries of the overlay -/

/-- What an override makes of a value. -/
def replace (current : Option Datum) : Override → Datum
  | .nested _ entries => .map (overlay (entriesOf current) entries)
  | .value _ raw => valueOf raw

theorem overlay_cons (entry : String × Override) (rest : List (String × Override)) :
    overlay settings (entry :: rest) = overlay (Datum.setEntry settings (.str entry.1)
      (replace (Datum.entry? settings entry.1) entry.2)) rest := by
  obtain ⟨name, _ | _⟩ := entry <;> rw [overlay] <;> rfl

theorem entry?_overlay_of_notMem (h : name ∉ Table.names overrides) :
    Datum.entry? (overlay settings overrides) name = Datum.entry? settings name := by
  induction overrides generalizing settings with
  | nil => rw [overlay]
  | cons entry rest ih =>
    simp only [Table.names, List.map_cons, List.mem_cons, not_or] at h
    rw [overlay_cons, ih h.2, Datum.entry?_setEntry, if_neg h.1]

theorem entry?_overlay_of_mem {x : Override} (hn : (Table.names overrides).Nodup)
    (hx : Table.get? overrides name = some x) :
    Datum.entry? (overlay settings overrides) name =
      some (replace (Datum.entry? settings name) x) := by
  induction overrides generalizing settings with
  | nil => simp [Table.get?] at hx
  | cons entry rest ih =>
    obtain ⟨hnew, hn⟩ := List.nodup_cons.1 hn
    rw [overlay_cons]
    rw [Table.get?] at hx
    split at hx
    · rename_i he
      subst he
      rw [entry?_overlay_of_notMem hnew, Datum.entry?_setEntry, if_pos rfl, Option.some.inj hx]
    · rename_i he
      rw [ih hn hx, Datum.entry?_setEntry, if_neg (Ne.symm he)]

theorem without_overlay : Datum.without (overlay settings overrides) name =
    overlay (Datum.without settings name) (Table.without overrides name) := by
  induction overrides generalizing settings with
  | nil => simp [overlay, Table.without]
  | cons entry rest ih =>
    rw [overlay_cons, ih, Table.without_cons]
    by_cases he : entry.1 = name
    · rw [if_pos he, he, Datum.without_setEntry_self]
    · rw [if_neg he, overlay_cons, Datum.without_setEntry he, Datum.entry?_without he]

end Loader

/-! ### Overlays that agree -/

/-- Mappings that differ at most in the places of the records along the given fields. -/
def Alike : List String → List (Datum × Datum) → List (Datum × Datum) → Prop
  | [], first, second => first = second
  | name :: rest, first, second => Datum.without first name = Datum.without second name ∧
      ∃ inner other, Datum.entry? first name = some (.map inner) ∧
        Datum.entry? second name = some (.map other) ∧ Alike rest inner other

/-- The mapping has mappings along the given fields. -/
def HasMappings : List String → List (Datum × Datum) → Prop
  | [], _ => True
  | name :: rest, settings =>
    ∃ inner, Datum.entry? settings name = some (.map inner) ∧ HasMappings rest inner

/-- The records along the given fields are in the settings, or the overrides make them. -/
def Supplied (fields : List String) (settings : List (Datum × Datum))
    (overrides : Table Override) : Prop :=
  ∀ way, way <+: fields → way ≠ [] → HasMappings way settings ∨ NestedAt way overrides

theorem Supplied.inner {owner : String} {inner : List (String × Override)}
    (h : Supplied (name :: rest) settings overrides)
    (hg : Table.get? overrides name = some (.nested owner inner)) :
    Supplied rest (entriesOf (Datum.entry? settings name)) inner := by
  intro way hw hne
  rcases h (name :: way) (List.cons_prefix_cons.2 ⟨rfl, hw⟩) (List.cons_ne_nil _ _) with
    ⟨entries, he, hm⟩ | ⟨_, nested, hn, hm⟩
  · rw [he]
    exact .inl hm
  · rw [hg] at hn
    cases hn
    exact .inr hm

theorem Supplied.of_none (h : Supplied (name :: rest) settings overrides)
    (hg : Table.get? overrides name = none) :
    ∃ entries, Datum.entry? settings name = some (.map entries) ∧ Supplied rest entries [] := by
  have hmappings : ∀ way, way <+: rest → HasMappings (name :: way) settings := by
    intro way hw
    refine (h _ (List.cons_prefix_cons.2 ⟨rfl, hw⟩) (List.cons_ne_nil _ _)).resolve_right ?_
    rintro ⟨_, _, hn, -⟩
    simp [hg] at hn
  obtain ⟨entries, he, -⟩ := hmappings [] List.nil_prefix
  refine ⟨entries, he, fun way hw _ => .inl ?_⟩
  obtain ⟨inner, hi, hm⟩ := hmappings way hw
  rw [he] at hi
  cases hi
  exact hm

/-- Overrides that agree along fields whose records are supplied make settings that are alike. -/
theorem overlay_alike [Yaml.Loader] (ha : Agrees fields overrides others) (ht : Tidy overrides)
    (ht' : Tidy others) (hs : Supplied fields settings others) :
    Alike fields (overlay settings overrides) (overlay settings others) := by
  induction fields generalizing overrides others settings with
  | nil => exact congrArg (overlay settings) ha
  | cons name rest ih =>
    obtain ⟨hw, owner, inner, hg, other, ho, hin⟩ := ha
    have hti := ht.of_mem (Table.mem_of_get?_eq_some hg)
    have hentry : Datum.entry? (overlay settings overrides) name =
        some (.map (overlay (entriesOf (Datum.entry? settings name)) inner)) :=
      entry?_overlay_of_mem ht.names_nodup hg
    refine ⟨by rw [without_overlay, without_overlay, hw], ?_⟩
    rcases Override.entriesOf?_eq_some.1 ho with ⟨hg', rfl⟩ | ⟨first, hg'⟩
    · -- without overrides for the record, its mapping is in the settings and stays as it is
      obtain ⟨current, hc, hs⟩ := hs.of_none hg'
      rw [hc] at hentry
      refine ⟨_, current, hentry, ?_, ?_⟩
      · rw [entry?_overlay_of_notMem (Table.get?_eq_none.1 hg'), hc]
      · have hi := ih hin hti Override.tidy_nil hs
        rwa [show overlay current [] = current by rw [overlay]] at hi
    · refine ⟨_, _, hentry, entry?_overlay_of_mem ht'.names_nodup hg', ?_⟩
      exact ih hin hti (ht'.of_mem (Table.mem_of_get?_eq_some hg')) (hs.inner hg')

/-! ### Origins of overrides that agree -/

/-- The values that one override sets. -/
def originsAt (here : List PathItem) : Override → List Origin
  | .nested _ entries => originsOf here entries
  | .value source raw => [⟨here, source, raw⟩]

theorem originsOf_cons (entry : String × Override) (rest : List (String × Override)) :
    originsOf path (entry :: rest) =
      originsAt (path ++ [.name entry.1]) entry.2 ++ originsOf path rest := by
  obtain ⟨name, _ | _⟩ := entry <;> rw [originsOf] <;> rfl

theorem mem_originsOf {x : Origin} : x ∈ originsOf path overrides ↔
    ∃ entry ∈ overrides, x ∈ originsAt (path ++ [.name entry.1]) entry.2 := by
  induction overrides with
  | nil => simp [originsOf]
  | cons entry rest ih => simp [originsOf_cons, ih]

theorem mem_originsOf_iff_get? {x : Origin} (hn : (Table.names overrides).Nodup) :
    x ∈ originsOf path overrides ↔ ∃ name o, Table.get? overrides name = some o ∧
      x ∈ originsAt (path ++ [.name name]) o := by
  rw [mem_originsOf]
  constructor
  · rintro ⟨⟨name, o⟩, hm, hx⟩
    exact ⟨name, o, Table.get?_of_mem hn hm, hx⟩
  · rintro ⟨name, o, hg, hx⟩
    exact ⟨(name, o), Table.mem_of_get?_eq_some hg, hx⟩

theorem prefix_of_mem_originsOf {x : Origin} (h : x ∈ originsOf path overrides) :
    path <+: x.path := by
  induction path, overrides using originsOf.induct with
  | case1 => simp [originsOf] at h
  | case2 path name owner entries rest ih₁ ih₂ =>
    rw [originsOf] at h
    rcases List.mem_append.1 h with h | h
    · exact (List.prefix_append _ _).trans (ih₁ h)
    · exact ih₂ h
  | case3 path name source raw rest ih =>
    rw [originsOf] at h
    rcases List.mem_cons.1 h with rfl | h
    · exact List.prefix_append _ _
    · exact ih h

theorem prefix_of_mem_originsAt {x : Origin} {here : List PathItem} {o : Override}
    (h : x ∈ originsAt here o) : here <+: x.path := by
  cases o with
  | nested owner entries => exact prefix_of_mem_originsOf h
  | value source raw =>
    rw [originsAt, List.mem_singleton] at h
    exact h ▸ List.prefix_rfl

/-- One place gets its value from one variable. -/
theorem origin_unique (ht : Tidy overrides) {x y : Origin} (hx : x ∈ originsOf path overrides)
    (hy : y ∈ originsOf path overrides) (he : x.path = y.path) : x = y := by
  induction ht generalizing path with
  | intro hn _ ih =>
    obtain ⟨name, o, hg, hx⟩ := (mem_originsOf_iff_get? hn).1 hx
    obtain ⟨other, o', hg', hy⟩ := (mem_originsOf_iff_get? hn).1 hy
    have hp := prefix_of_mem_originsAt hx
    have hp' := prefix_of_mem_originsAt hy
    rw [← he] at hp'
    -- both places are beginnings of one path
    have hpath : path ++ [PathItem.name name] = path ++ [.name other] :=
      (List.prefix_of_prefix_length_le hp hp' (by simp)).eq_of_length (by simp)
    obtain rfl : name = other := by simpa using hpath
    obtain rfl : o = o' := Option.some.inj (hg.symm.trans hg')
    cases o with
    | nested owner entries => exact ih _ _ _ (Table.mem_of_get?_eq_some hg) hx hy
    | value source raw =>
      rw [originsAt, List.mem_singleton] at hx hy
      rw [hx, hy]

/-- Records alone set no value. -/
theorem mem_originsOf_congr {x : Origin} (ha : Agrees fields overrides others)
    (ht : Tidy overrides) (ht' : Tidy others) :
    x ∈ originsOf path overrides ↔ x ∈ originsOf path others := by
  induction fields generalizing overrides others path with
  | nil => rw [show overrides = others from ha]
  | cons name rest ih =>
    rw [mem_originsOf_iff_get? ht.names_nodup, mem_originsOf_iff_get? ht'.names_nodup]
    obtain ⟨-, owner, inner, hg, other, ho, hin⟩ := id ha
    have hti := ht.of_mem (Table.mem_of_get?_eq_some hg)
    refine exists_congr fun n => ?_
    by_cases hn : n = name
    · subst hn
      rw [hg]
      rcases Override.entriesOf?_eq_some.1 ho with ⟨hg', rfl⟩ | ⟨first, hg'⟩
      · have hinner : x ∈ originsOf (path ++ [.name n]) inner ↔
            x ∈ originsOf (path ++ [.name n]) [] := ih hin hti Override.tidy_nil
        simpa [hg', originsAt, originsOf] using hinner
      · have hinner : x ∈ originsOf (path ++ [.name n]) inner ↔
            x ∈ originsOf (path ++ [.name n]) other :=
          ih hin hti (ht'.of_mem (Table.mem_of_get?_eq_some hg'))
        simpa [hg', originsAt] using hinner
    · rw [ha.get? hn]

theorem find?_congr_of_mem {first second : List Origin} (hm : ∀ x, x ∈ first ↔ x ∈ second)
    (hu : ∀ x ∈ second, ∀ y ∈ second, x.path = y.path → x = y) (here : List PathItem) :
    first.find? (·.path == here) = second.find? (·.path == here) := by
  cases hf : first.find? (·.path == here) with
  | none =>
    rw [List.find?_eq_none] at hf
    exact (List.find?_eq_none.2 fun x hx => hf x ((hm x).2 hx)).symm
  | some x =>
    have hx := (hm x).1 (List.mem_of_find?_eq_some hf)
    cases hs : second.find? (·.path == here) with
    | none => exact absurd (List.find?_some hf) (List.find?_eq_none.1 hs x hx)
    | some y =>
      have hpx : x.path = here := by simpa using List.find?_some hf
      have hpy : y.path = here := by simpa using List.find?_some hs
      rw [hu x hx y (List.mem_of_find?_eq_some hs) (hpx.trans hpy.symm)]

theorem ascribe_congr {first second : List Origin} (hm : ∀ x, x ∈ first ↔ x ∈ second)
    (hu : ∀ x ∈ second, ∀ y ∈ second, x.path = y.path → x = y) :
    ascribe first = ascribe second := by
  have horigin : originOf? first = originOf? second := by
    funext here
    unfold originOf?
    congr 1
    funext k
    exact find?_congr_of_mem hm hu _
  funext p
  rw [ascribe, ascribe, horigin]

end ScenarioCompiler.Settings
