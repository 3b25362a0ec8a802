import Mathlib.Data.List.Nodup
import ScenarioCompiler.Table

namespace ScenarioCompiler.Table

variable {α : Type} {table entries : Table α} {name : String} {value : α}

theorem names_append (first second : Table α) :
    names (first ++ second) = names first ++ names second :=
  List.map_append

theorem put_eq_append (h : name ∉ names table) :
    put table name value = table ++ [(name, value)] := by
  induction table with
  | nil => rfl
  | cons entry rest ih =>
    simp only [names, List.map_cons, List.mem_cons, not_or] at h
    rw [put, if_neg (Ne.symm h.1), ih h.2, List.cons_append]

theorem putAll_eq_append (h : (names (table ++ entries)).Nodup) :
    putAll table entries = table ++ entries := by
  induction entries generalizing table with
  | nil => simp [putAll]
  | cons entry rest ih =>
    have hn : entry.1 ∉ names table := by
      rw [names_append, List.nodup_append] at h
      exact fun hm => h.2.2 _ hm _ List.mem_cons_self rfl
    have hp : put table entry.1 entry.2 = table ++ [entry] := put_eq_append hn
    have hi : putAll (table ++ [entry]) rest = table ++ [entry] ++ rest := ih (by simpa using h)
    change putAll (put table entry.1 entry.2) rest = _
    rw [hp, hi, List.append_assoc, List.singleton_append]

/-- A table without repeated names reads back as itself. -/
theorem ofEntries_eq_self (h : (names entries).Nodup) : ofEntries entries = entries :=
  putAll_eq_append (by simpa using h)

theorem get?_eq_none : get? table name = none ↔ name ∉ names table := by
  induction table with
  | nil => simp [get?, names]
  | cons entry rest ih =>
    rw [get?]
    by_cases h : entry.1 = name
    · simp [h, names]
    · simp only [names] at ih
      simp [h, ih, names, Ne.symm h]

theorem mem_of_get?_eq_some (h : get? table name = some value) : (name, value) ∈ table := by
  induction table with
  | nil => simp [get?] at h
  | cons entry rest ih =>
    rw [get?] at h
    split at h
    · rename_i he
      simp [← he, ← Option.some.inj h]
    · exact List.mem_cons_of_mem _ (ih h)

theorem get?_of_mem (hd : (names table).Nodup) (h : (name, value) ∈ table) :
    get? table name = some value := by
  cases hg : get? table name with
  | none => exact absurd (List.mem_map_of_mem (f := Prod.fst) h) (get?_eq_none.1 hg)
  | some other =>
    have hm := mem_of_get?_eq_some hg
    have he : (name, other) = (name, value) := List.inj_on_of_nodup_map hd hm h rfl
    rw [(Prod.mk.inj he).2]

theorem putAll_append (table first second : Table α) :
    putAll table (first ++ second) = putAll (putAll table first) second :=
  List.foldl_append

theorem get?_putAll_of_notMem (h : name ∉ names entries) :
    get? (putAll table entries) name = get? table name := by
  induction entries generalizing table with
  | nil => rfl
  | cons entry rest ih =>
    simp only [names, List.map_cons, List.mem_cons, not_or] at h
    change get? (putAll (put table entry.1 entry.2) rest) name = _
    rw [ih h.2, get?_put, if_neg h.1]

theorem mem_names_put {other : String} :
    name ∈ names (put table other value) ↔ name ∈ names table ∨ name = other := by
  rw [names_put]
  split
  · rename_i h
    exact ⟨.inl, fun hn => hn.elim id fun he => he ▸ h⟩
  · rw [List.mem_append, List.mem_singleton]

theorem mem_names_putAll :
    name ∈ names (putAll table entries) ↔ name ∈ names table ∨ name ∈ names entries := by
  induction entries generalizing table with
  | nil => simp [putAll, names]
  | cons entry rest ih =>
    change name ∈ names (putAll (put table entry.1 entry.2) rest) ↔ _
    rw [ih, mem_names_put, or_assoc]
    simp [names]

/-- Setting a value leaves the entries of other names at the head of a table as they are. -/
theorem prefix_put {first : Table α} (h : first <+: table) (hn : name ∉ names first) :
    first <+: put table name value := by
  obtain ⟨rest, rfl⟩ := h
  induction first with
  | nil => exact List.nil_prefix
  | cons entry first ih =>
    simp only [names, List.map_cons, List.mem_cons, not_or] at hn
    rw [List.cons_append, put, if_neg (Ne.symm hn.1)]
    exact List.cons_prefix_cons.2 ⟨rfl, ih hn.2⟩

theorem prefix_putAll {first : Table α} (h : first <+: table)
    (hn : (names entries).Disjoint (names first)) : first <+: putAll table entries := by
  induction entries generalizing table with
  | nil => exact h
  | cons entry rest ih =>
    obtain ⟨hentry, hrest⟩ := List.disjoint_cons_left.1 hn
    exact ih (prefix_put h hentry) hrest

theorem get?_of_prefix {first : Table α} (h : first <+: table) (hg : get? first name = some value) :
    get? table name = some value := by
  obtain ⟨rest, rfl⟩ := h
  induction first with
  | nil => simp [get?] at hg
  | cons entry first ih =>
    rw [List.cons_append, get?]
    rw [get?] at hg
    split
    · rwa [if_pos ‹_›] at hg
    · rw [if_neg ‹_›] at hg
      exact ih hg

/-- Entries with distinct names win over those of the table. -/
theorem get?_putAll (h : (names entries).Nodup) :
    get? (putAll table entries) name = (get? entries name).or (get? table name) := by
  induction entries generalizing table with
  | nil => rfl
  | cons entry rest ih =>
    obtain ⟨hn, hr⟩ := List.nodup_cons.1 h
    change get? (putAll (put table entry.1 entry.2) rest) name = _
    rw [ih hr, get?_put, get?]
    by_cases he : name = entry.1
    · subst he
      simp [get?_eq_none.2 hn]
    · rw [if_neg he, if_neg (Ne.symm he)]

/-- Tables that agree on a name still do so after the same changes. -/
theorem get?_putAll_congr {other : Table α} (h : get? table name = get? other name) :
    get? (putAll table entries) name = get? (putAll other entries) name := by
  induction entries generalizing table other with
  | nil => exact h
  | cons entry rest ih =>
    apply ih
    rw [get?_put, get?_put, h]

theorem mem_put {entry : String × α} (h : entry ∈ put table name value) :
    entry = (name, value) ∨ entry ∈ table := by
  induction table with
  | nil => exact .inl (List.mem_singleton.1 h)
  | cons first rest ih =>
    rw [put] at h
    split at h
    · exact (List.mem_cons.1 h).imp_right (List.mem_cons_of_mem _)
    · rcases List.mem_cons.1 h with rfl | h
      · exact .inr List.mem_cons_self
      · exact (ih h).imp_right (List.mem_cons_of_mem _)

/-- The other entries of a table. -/
def without (table : Table α) (name : String) : Table α := table.filter fun e => e.1 ≠ name

theorem without_cons (entry : String × α) (rest : Table α) (name : String) :
    without (entry :: rest) name =
      if entry.1 = name then without rest name else entry :: without rest name := by
  by_cases h : entry.1 = name <;> simp [without, h]

theorem get?_without {other : String} (h : other ≠ name) :
    get? (without table name) other = get? table other := by
  induction table with
  | nil => rfl
  | cons entry rest ih =>
    rw [without_cons]
    by_cases he : entry.1 = name
    · rw [if_pos he, ih, get?, if_neg (he ▸ h.symm)]
    · rw [if_neg he, get?, get?, ih]

theorem without_put_self : without (put table name value) name = without table name := by
  induction table with
  | nil => simp [put, without]
  | cons entry rest ih =>
    rw [put]
    by_cases he : entry.1 = name
    · rw [if_pos he, without_cons, without_cons, if_pos rfl, if_pos he]
    · rw [if_neg he, without_cons, without_cons, if_neg he, if_neg he, ih]

theorem without_put {other : String} (h : other ≠ name) :
    without (put table other value) name = put (without table name) other value := by
  induction table with
  | nil => simp [put, without, h]
  | cons entry rest ih =>
    rw [put]
    by_cases he : entry.1 = other
    · rw [if_pos he, without_cons, without_cons, if_neg h, if_neg (he ▸ h), put, if_pos he]
    · rw [if_neg he, without_cons, without_cons, ih]
      split
      · rfl
      · rw [put, if_neg he]

end ScenarioCompiler.Table
