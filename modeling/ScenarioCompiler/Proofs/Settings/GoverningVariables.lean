import ScenarioCompiler.Proofs.Settings.ConflictingVariables

namespace ScenarioCompiler.Override

open Schema (Shape)

variable {shape fieldShape : Shape} {start source raw name : String} {path other rest : List String}
  {overrides inner result : Table Override} {current : Option Override} {x : Override}
  {seen given : Table String} {environment : Bindings} {s r : String}

/-! ### Variables that are not mapped -/

theorem at?_of_entriesOf? (h : entriesOf? current = some inner) :
    at? current path = some (.value s r) ↔ node? inner path = some (.value s r) := by
  rcases entriesOf?_eq_some.1 h with ⟨rfl, rfl⟩ | ⟨owner, rfl⟩
  · cases path <;> simp [node?, Table.get?]
  · exact at?_nested_eq_value

/-- A variable that is not mapped sets no value. -/
theorem node?_insert_of_unmapped (hu : Unmapped shape path)
    (h : insert source raw shape overrides path = .ok result) :
    node? result other = some (.value s r) ↔ node? overrides other = some (.value s r) := by
  induction path generalizing shape overrides result other with
  | nil => exact absurd hu (Nat.lt_irrefl _)
  | cons segment rest ih =>
    rcases of_insert_cons h with rfl | ⟨name, fieldShape, x, hf, hx, rfl⟩
    · rfl
    have hrest : Unmapped fieldShape rest := (unmapped_cons hf).1 hu
    have hne : rest ≠ [] := by
      rintro rfl
      exact Nat.lt_irrefl _ hrest
    obtain ⟨owner, inner, inner', hi, hin, rfl⟩ := of_change_of_ne_nil hne hx
    cases other with
    | nil => exact Iff.rfl
    | cons first more =>
      rw [node?, node?, Table.get?_put]
      by_cases hn : first = name
      · subst hn
        rw [if_pos rfl, at?_nested_eq_value, ih hrest hin, at?_of_entriesOf? hi]
      · rw [if_neg hn]

/-! ### The variable that sets a path -/

/-- The variable has the prefix, and the parts of its name are fields that lead to the given one. -/
def Assigns (shape : Shape) (start name : String) (path : List String) : Prop :=
  Sets shape start name path ∧ ¬ Unmapped shape (parts start name)

/-- Of the variables that lead to a path, the one with the greatest name sets it. -/
def Governs (shape : Shape) (start : String) (environment : Bindings) (path : List String)
    (source raw : String) : Prop :=
  environment.get? source = some raw ∧ Assigns shape start source path ∧
    ∀ other ∈ environment.names, Assigns shape start other path → other ≤ source

theorem node?_insert_parts (h : insert name raw shape overrides (parts start name) = .ok result) :
    node? result path = some (.value s r) ↔ Assigns shape start name path ∧ (s, r) = (name, raw) ∨
      ¬ Assigns shape start name path ∧ node? overrides path = some (.value s r) := by
  by_cases hp : Prefixed start name
  · by_cases hu : Unmapped shape (parts start name)
    · rw [node?_insert_of_unmapped hu h]
      simp [Assigns, hu]
    · rw [node?_insert_eq_value hu (parts_ne_nil hp) h]
      simp [Assigns, Sets, hp, hu, eq_comm]
  · rw [parts_of_not_prefixed hp] at h
    cases h
    simp [Assigns, Sets, hp]

/-- The values after a list of variables are those of the last ones that lead to their paths. -/
theorem node?_insertAll (hv : ∀ path s r, node? overrides path = some (.value s r) ↔
      IsLast (fun entry => Assigns shape start entry.1 path) seen (s, r))
    (h : insertAll shape start overrides given = .ok result) :
    node? result path = some (.value s r) ↔
      IsLast (fun entry => Assigns shape start entry.1 path) (seen ++ given) (s, r) := by
  induction given generalizing seen overrides with
  | nil =>
    cases h
    rw [List.append_nil, hv]
  | cons entry rest ih =>
    obtain ⟨name, raw⟩ := entry
    rw [insertAll_cons, bind_eq_ok] at h
    obtain ⟨next, hn, h⟩ := h
    rw [List.append_cons]
    refine ih (fun path s r => ?_) h
    rw [node?_insert_parts hn, isLast_append_singleton, hv]

theorem isLast_sorted_iff : IsLast (fun entry => Assigns shape start entry.1 path)
    (sorted environment) (source, raw) ↔ Governs shape start environment path source raw := by
  have hmem : ∀ entry, entry ∈ sorted environment ↔ entry ∈ environment.entries :=
    fun _ => (List.mergeSort_perm _ _).mem_iff
  constructor
  · intro hl
    refine ⟨Table.get?_of_mem environment.distinct ((hmem _).1 hl.mem), hl.prop, ?_⟩
    intro other ho ha
    obtain ⟨entry, he, rfl⟩ := List.mem_map.1 (mem_names_sorted.2 ho)
    exact le_of_isLast hl he ha
  · rintro ⟨hg, ha, hmax⟩
    have hm : (source, raw) ∈ sorted environment := (hmem _).2 (Table.mem_of_get?_eq_some hg)
    obtain ⟨last, hl⟩ : ∃ last, IsLast (fun entry : String × String =>
        Assigns shape start entry.1 path) (sorted environment) last := exists_isLast hm ha
    -- the last of them and the given one are not below each other
    have hlast : last.1 ≤ source :=
      hmax last.1 (mem_names_sorted.1 (List.mem_map_of_mem hl.mem)) hl.prop
    have he : (source, raw) = last :=
      List.inj_on_of_nodup_map environment.distinct ((hmem _).1 hm) ((hmem _).1 hl.mem)
        (String.le_antisymm (le_of_isLast hl hm ha) hlast)
    rwa [he]

/-- The values in the tree of an environment are those of the variables that set their paths. -/
theorem node?_eq_value_iff (h : ofEnvironment shape start environment = .ok overrides) :
    node? overrides path = some (.value source raw) ↔
      Governs shape start environment path source raw := by
  have hempty : ∀ path s r, node? [] path = some (.value s r) ↔
      IsLast (fun entry => Assigns shape start entry.1 path) ([] : Table String) (s, r) :=
    fun path s r => ⟨fun hv => by cases path <;> simp [node?, Table.get?] at hv,
      fun hl => absurd hl.mem List.not_mem_nil⟩
  rw [ofEnvironment_eq] at h
  rw [node?_insertAll hempty h, List.nil_append, isLast_sorted_iff]

/-- No two paths that are set lie one above the other. -/
theorem Governs.eq_of_prefix (h : ofEnvironment shape start environment = .ok overrides)
    (hp : Governs shape start environment path source raw)
    (ho : Governs shape start environment other s r) (hle : path <+: other) :
    path = other ∧ source = s ∧ raw = r := by
  rw [← node?_eq_value_iff h] at hp ho
  have he : path = other := by
    by_contra hne
    rw [node?_of_contains hp ⟨hle, hne⟩] at ho
    cases ho
  subst he
  rw [hp] at ho
  cases ho
  exact ⟨rfl, rfl, rfl⟩

end ScenarioCompiler.Override
