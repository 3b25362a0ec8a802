import ScenarioCompiler.Proofs.LastItem
import ScenarioCompiler.Proofs.Settings.OverrideTree
import ScenarioCompiler.Proofs.Settings.Variables
import ScenarioCompiler.Settings.Load

namespace ScenarioCompiler.Override

open Schema (Shape)

variable {shape : Shape} {start name first second raw : String} {path fields : List String}
  {overrides result : Table Override} {seen given : Table String} {environment : Bindings}

/-! ### Variables and their fields -/

def Prefixed (start name : String) : Prop := (dropPrefix? start name).isSome

/-- Every variable with the prefix is mapped to a field. -/
def Mapped (shape : Shape) (start : String) (names : List String) : Prop :=
  ∀ name ∈ names, Prefixed start name → ¬ Unmapped shape (parts start name)

/-- The variable has the prefix, and the parts of its name lead to the given field. -/
def Sets (shape : Shape) (start name : String) (fields : List String) : Prop :=
  Prefixed start name ∧ reach shape (parts start name) = fields

/-- The first variable sets a field that contains the one which the second sets. -/
def Encloses (shape : Shape) (start first second : String) : Prop :=
  ∃ path fields, Sets shape start first path ∧ Sets shape start second fields ∧
    Contains path fields

/-- Two of the variables of which one sets a field that contains the one of the other. -/
def Clash (shape : Shape) (start : String) (names : List String) (first second : String) : Prop :=
  first ∈ names ∧ second ∈ names ∧
    (Encloses shape start first second ∨ Encloses shape start second first)

instance : Decidable (Prefixed start name) := inferInstanceAs (Decidable (_ = true))

instance {names : List String} : Decidable (Mapped shape start names) :=
  inferInstanceAs (Decidable (∀ name ∈ names, Prefixed start name → ¬ Unmapped shape _))

theorem splitFrom_ne_nil (separator : List Char) (skip : Nat) (text : List Char) :
    Text.splitFrom separator skip text ≠ [] := by
  induction text generalizing skip with
  | nil => simp [Text.splitFrom]
  | cons c rest ih =>
    cases skip with
    | succ skip => exact ih skip
    | zero =>
      rw [Text.splitFrom]
      split
      · exact List.cons_ne_nil _ _
      · cases Text.splitFrom separator 0 rest <;> simp [Text.consFirst]

theorem parts_ne_nil (h : Prefixed start name) : parts start name ≠ [] := by
  obtain ⟨path, hp⟩ := Option.isSome_iff_exists.1 h
  rw [parts, hp]
  simpa [segments, Text.splitAll] using splitFrom_ne_nil _ _ _

theorem parts_of_not_prefixed (h : ¬ Prefixed start name) : parts start name = [] := by
  rw [parts, Option.not_isSome_iff_eq_none.1 h]

/-! ### The tree of a list of variables -/

/-- The values are those of the last variables that set a field, and each record holds something
and is on the way of its owner. -/
structure Reflects (shape : Shape) (start : String) (given : Table String)
    (overrides : Table Override) : Prop where
  value : ∀ path source raw, node? overrides path = some (.value source raw) ↔
    IsLast (fun entry => Sets shape start entry.1 path) given (source, raw)
  nested : ∀ path owner inner, node? overrides path = some (.nested owner inner) →
    inner ≠ [] ∧ owner ∈ Table.names given ∧
      ∃ fields, Sets shape start owner fields ∧ Contains path fields

theorem reflects_nil : Reflects shape start [] [] where
  value path source raw := by
    constructor
    · cases path <;> simp [node?, Table.get?]
    · intro h
      exact absurd h.mem List.not_mem_nil
  nested path owner inner := by cases path <;> simp [node?, Table.get?]

theorem mem_names_append_singleton {other : String} :
    other ∈ Table.names (seen ++ [(name, raw)]) ↔ other ∈ Table.names seen ∨ other = name := by
  simp [Table.names]

theorem Reflects.insert (hr : Reflects shape start seen overrides) (raw : String)
    (hm : Prefixed start name → ¬ Unmapped shape (parts start name)) :
    (∃ c, insert name raw shape overrides (parts start name) = .error c ∧
      Clash shape start (Table.names (seen ++ [(name, raw)])) c.first c.second) ∨
    ∃ result, insert name raw shape overrides (parts start name) = .ok result ∧
      Reflects shape start (seen ++ [(name, raw)]) result := by
  by_cases hp : Prefixed start name
  · have hmapped := hm hp
    have hne := parts_ne_nil hp
    have hsets : Sets shape start name (reach shape (parts start name)) := ⟨hp, rfl⟩
    cases h : Override.insert name raw shape overrides (parts start name) with
    | error c =>
      obtain ⟨hsecond, hfirst⟩ := of_insert_eq_error hmapped hne h
      refine .inl ⟨c, rfl, ?_⟩
      rw [Clash, mem_names_append_singleton, mem_names_append_singleton, hsecond]
      -- the value is that of an earlier variable, and the record on the way of its owner
      rcases hfirst with ⟨path, r, ha, hc⟩ | ⟨inner, ha⟩
      · have hl := (hr.value path c.first r).1 ha
        exact ⟨.inl (List.mem_map_of_mem hl.mem), .inr rfl, .inl ⟨_, _, hl.prop, hsets, hc⟩⟩
      · obtain ⟨-, ho, fields, hs, hc⟩ := hr.nested _ _ _ ha
        exact ⟨.inl ho, .inr rfl, .inr ⟨_, _, hsets, hs, hc⟩⟩
    | ok result =>
      refine .inr ⟨result, rfl, fun path source r => ?_, fun path owner inner ha => ?_⟩
      · rw [node?_insert_eq_value hmapped hne h, isLast_append_singleton, hr.value]
        simp [Sets, hp, eq_comm]
      · rw [mem_names_append_singleton]
        rcases of_node?_insert_eq_nested hmapped hne h ha with
          ha | ⟨hi, ⟨known, ha⟩ | ⟨rfl, hc⟩⟩
        · obtain ⟨hi, ho, hs⟩ := hr.nested _ _ _ ha
          exact ⟨hi, .inl ho, hs⟩
        · obtain ⟨-, ho, hs⟩ := hr.nested _ _ _ ha
          exact ⟨hi, .inl ho, hs⟩
        · exact ⟨hi, .inr rfl, _, hsets, hc⟩
  · rw [parts_of_not_prefixed hp]
    refine .inr ⟨overrides, rfl, fun path source r => ?_, fun path owner inner ha => ?_⟩
    · rw [isLast_append_singleton, hr.value]
      simp [Sets, hp]
    · obtain ⟨hi, ho, hs⟩ := hr.nested _ _ _ ha
      exact ⟨hi, mem_names_append_singleton.2 (.inl ho), hs⟩

theorem Clash.append (h : Clash shape start (Table.names seen) first second)
    (given : Table String) : Clash shape start (Table.names (seen ++ given)) first second := by
  rw [Table.names_append]
  exact ⟨List.mem_append_left _ h.1, List.mem_append_left _ h.2.1, h.2.2⟩

theorem Reflects.insertAll (hr : Reflects shape start seen overrides)
    (hm : Mapped shape start (Table.names given)) :
    (∃ c, insertAll shape start overrides given = .error c ∧
      Clash shape start (Table.names (seen ++ given)) c.first c.second) ∨
    ∃ result, insertAll shape start overrides given = .ok result ∧
      Reflects shape start (seen ++ given) result := by
  induction given generalizing seen overrides with
  | nil => exact .inr ⟨overrides, rfl, by rwa [List.append_nil]⟩
  | cons entry rest ih =>
    obtain ⟨name, raw⟩ := entry
    rw [insertAll_cons, List.append_cons]
    rcases hr.insert raw (hm name List.mem_cons_self) with ⟨c, hc, hclash⟩ | ⟨next, hn, hnext⟩
    · exact .inl ⟨c, by rw [hc, error_bind], hclash.append rest⟩
    · rw [hn, ok_bind]
      exact ih hnext fun other ho => hm other (List.mem_cons_of_mem _ ho)

/-! ### The tree of an environment -/

def HasValue (overrides : Table Override) (path : List String) : Prop :=
  ∃ source raw, node? overrides path = some (.value source raw)

/-- The overrides that the variables of an environment stand for. -/
structure TreeOf (shape : Shape) (start : String) (environment : Bindings)
    (overrides : Table Override) : Prop where
  tidy : Tidy overrides
  nonempty : ∀ path owner inner, node? overrides path = some (.nested owner inner) → inner ≠ []
  paths : ∀ path, HasValue overrides path ↔
    ∃ name ∈ environment.names, Sets shape start name path
  prefix_free : ∀ path other, HasValue overrides path → HasValue overrides other →
    ¬ Contains path other
  last : ∀ path source raw, node? overrides path = some (.value source raw) →
    environment.get? source = some raw ∧ Sets shape start source path ∧
      ∀ other ∈ environment.names, Sets shape start other path → other ≤ source

theorem mem_names_sorted : name ∈ Table.names (sorted environment) ↔ name ∈ environment.names :=
  (names_sorted_perm environment).mem_iff

/-- Of the variables of an environment, the last one with a property has the greatest name. -/
theorem le_of_isLast {p : String × String → Prop} {entry other : String × String}
    (h : IsLast p (sorted environment) entry) (ho : other ∈ sorted environment) (hp : p other) :
    other.1 ≤ entry.1 := by
  obtain ⟨before, after, he, -, ha⟩ := h
  have hs := sorted_pairwise environment
  rw [he] at hs ho
  rcases List.mem_append.1 ho with ho | ho
  · exact (List.pairwise_append.1 hs).2.2 _ ho _ List.mem_cons_self
  · rcases List.mem_cons.1 ho with rfl | ho
    · exact String.le_refl _
    · exact absurd hp (ha _ ho)

theorem Reflects.treeOf (hr : Reflects shape start (sorted environment) overrides)
    (ht : Tidy overrides) : TreeOf shape start environment overrides where
  tidy := ht
  nonempty path owner inner ha := (hr.nested path owner inner ha).1
  paths path := by
    constructor
    · rintro ⟨source, raw, ha⟩
      have hl := (hr.value path source raw).1 ha
      exact ⟨source, mem_names_sorted.1 (List.mem_map_of_mem hl.mem), hl.prop⟩
    · rintro ⟨name, hn, hs⟩
      obtain ⟨entry, he, rfl⟩ := List.mem_map.1 (mem_names_sorted.2 hn)
      have hlast : ∃ last, IsLast (fun e => Sets shape start e.1 path) (sorted environment) last :=
        exists_isLast he hs
      obtain ⟨⟨source, raw⟩, hl⟩ := hlast
      exact ⟨source, raw, (hr.value path source raw).2 hl⟩
  prefix_free := by
    -- two such values cannot be in one tree
    rintro path other ⟨source, raw, ha⟩ ⟨source', raw', ho⟩ hc
    rw [node?_of_contains ha hc] at ho
    cases ho
  last path source raw ha := by
    have hl := (hr.value path source raw).1 ha
    have hm : (source, raw) ∈ environment.entries := (List.mergeSort_perm _ _).mem_iff.1 hl.mem
    refine ⟨Table.get?_of_mem environment.distinct hm, hl.prop, fun other ho hs => ?_⟩
    obtain ⟨entry, he, rfl⟩ := List.mem_map.1 (mem_names_sorted.2 ho)
    exact le_of_isLast hl he hs

theorem TreeOf.not_clash (h : TreeOf shape start environment overrides) :
    ¬ Clash shape start environment.names first second := by
  rintro ⟨hf, hs, ⟨path, fields, hp, hq, hc⟩ | ⟨path, fields, hp, hq, hc⟩⟩
  · exact h.prefix_free path fields ((h.paths _).2 ⟨_, hf, hp⟩) ((h.paths _).2 ⟨_, hs, hq⟩) hc
  · exact h.prefix_free path fields ((h.paths _).2 ⟨_, hs, hp⟩) ((h.paths _).2 ⟨_, hf, hq⟩) hc

theorem ofEnvironment_cases (hm : Mapped shape start environment.names) :
    (∃ c, ofEnvironment shape start environment = .error c ∧
      Clash shape start environment.names c.first c.second) ∨
    ∃ overrides, ofEnvironment shape start environment = .ok overrides ∧
      TreeOf shape start environment overrides := by
  have hsorted : Mapped shape start (Table.names (sorted environment)) :=
    fun name hn => hm name (mem_names_sorted.1 hn)
  rw [ofEnvironment_eq]
  rcases reflects_nil.insertAll hsorted with ⟨c, hc, hf, hs, hclash⟩ | ⟨result, hok, hr⟩
  · exact .inl ⟨c, hc, mem_names_sorted.1 hf, mem_names_sorted.1 hs, hclash⟩
  · exact .inr ⟨result, hok, hr.treeOf (tidy_nil.insertAll hok)⟩

/-- If every variable with the prefix is mapped to a field, the overrides of an environment fail
exactly if two of its variables conflict, and name two that do; else they are the tree of the
fields that the variables set. -/
theorem ofEnvironment_decides_conflicts (hm : Mapped shape start environment.names) :
    ((∃ c, ofEnvironment shape start environment = .error c) ↔
      ∃ first second, Clash shape start environment.names first second) ∧
    (∀ c, ofEnvironment shape start environment = .error c →
      Clash shape start environment.names c.first c.second) ∧
    ∀ overrides, ofEnvironment shape start environment = .ok overrides →
      TreeOf shape start environment overrides := by
  rcases ofEnvironment_cases hm with ⟨c, hc, hclash⟩ | ⟨overrides, ho, htree⟩
  · rw [hc]
    refine ⟨⟨fun _ => ⟨_, _, hclash⟩, fun _ => ⟨c, rfl⟩⟩, ?_, fun _ he => by cases he⟩
    intro c' he
    cases he
    exact hclash
  · rw [ho]
    refine ⟨⟨?_, ?_⟩, ?_, ?_⟩
    · rintro ⟨c, he⟩
      cases he
    · rintro ⟨first, second, hclash⟩
      exact absurd hclash htree.not_clash
    · intro c he
      cases he
    · intro result he
      cases he
      exact htree

/-- A variable for a field, and after it one for the record that holds the field. -/
def clashingEnvironment : Bindings where
  entries := [("CSM_PLATFORM_argo", "Always"), ("HOME", "/root"),
    ("CSM_PLATFORM_ARGO__IMAGEPULLPOLICY", "Never")]
  distinct := by decide

/-- Two variables for one field. -/
def mixedCaseEnvironment : Bindings where
  entries := [("CSM_PLATFORM_argo__imagepullpolicy", "Always"),
    ("CSM_PLATFORM_ARGO__IMAGEPULLPOLICY", "Never")]
  distinct := by decide

theorem clashing_and_mixedCase_decided :
    Clash PlatformSettings.decoder.shape Settings.defaultPrefix clashingEnvironment.names
      "CSM_PLATFORM_ARGO__IMAGEPULLPOLICY" "CSM_PLATFORM_argo" ∧
    TreeOf PlatformSettings.decoder.shape Settings.defaultPrefix mixedCaseEnvironment
      [("argo", .nested "CSM_PLATFORM_ARGO__IMAGEPULLPOLICY"
        [("imagePullPolicy", .value "CSM_PLATFORM_argo__imagepullpolicy" "Always")])] := by
  constructor
  · have hs : sorted clashingEnvironment =
        [("CSM_PLATFORM_ARGO__IMAGEPULLPOLICY", "Never"), ("CSM_PLATFORM_argo", "Always"),
          ("HOME", "/root")] := sorted_eq (by decide) (by decide)
    refine (ofEnvironment_decides_conflicts (by decide +kernel)).2.1
      ⟨"CSM_PLATFORM_ARGO__IMAGEPULLPOLICY", "CSM_PLATFORM_argo"⟩ ?_
    rw [ofEnvironment_eq, hs]
    rfl
  · have hs : sorted mixedCaseEnvironment =
        [("CSM_PLATFORM_ARGO__IMAGEPULLPOLICY", "Never"),
          ("CSM_PLATFORM_argo__imagepullpolicy", "Always")] := sorted_eq (by decide) (by decide)
    refine (ofEnvironment_decides_conflicts (by decide +kernel)).2.2 _ ?_
    rw [ofEnvironment_eq, hs]
    rfl

end ScenarioCompiler.Override
