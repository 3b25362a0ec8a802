import ScenarioCompiler.Proofs.Settings.ConflictingVariables
import ScenarioCompiler.Proofs.Settings.Overlay

namespace ScenarioCompiler

namespace Datum

/-- What stands at the end of a path that leads through mappings. -/
def at? : Datum → List String → Option Datum
  | value, [] => some value
  | .map entries, name :: rest => (Datum.entry? entries name).bind fun value => at? value rest
  | _, _ :: _ => none

/-- A list or a mapping. -/
def IsCollection : Datum → Prop
  | .seq _ | .map _ | .loop _ => True
  | _ => False

variable {entries : List (Datum × Datum)} {name : String} {rest : List String} {value : Datum}

@[simp] theorem at?_nil (value : Datum) : at? value [] = some value := by
  cases value <;> rfl

theorem at?_map_cons : at? (.map entries) (name :: rest) =
    (Datum.entry? entries name).bind fun value => at? value rest := by
  rw [at?]

theorem setEntry_eq_self (h : entry? entries name = some value) :
    setEntry entries (.str name) value = entries := by
  induction entries with
  | nil => cases h
  | cons entry rest ih =>
    rw [entry?_cons] at h
    rw [setEntry]
    by_cases hk : entry.1.sameKey (.str name)
    · rw [if_pos hk] at h ⊢
      rw [← Option.some.inj h]
    · rw [if_neg hk] at h ⊢
      rw [ih h]

end Datum

namespace Settings

open Schema (PathItem Shape)
open Override (Tidy TreeOf Mapped HasValue node? node?_of_none node?_of_value
  of_node?_of_value node?_eq_value_of_nested)

variable {settings merged : List (Datum × Datum)} {overrides : Table Override}
  {path : List String} {name source raw : String} {here : List PathItem}

/-! ### The value of a text -/

section Loader

variable [Yaml.Loader]

/-- The value that the text of a variable counts as: the list or the mapping that it is as YAML, or
else the text itself. -/
def Denotes (raw : String) (value : Datum) : Prop :=
  Yaml.Loader.load raw = .ok value ∧ value.IsCollection ∨
    value = .str raw ∧ ∀ other, Yaml.Loader.load raw = .ok other → ¬ other.IsCollection

/-- If the text is not loaded, that is an error of the format. -/
def Constructible (raw : String) : Prop := ∀ fault, Yaml.Loader.load raw ≠ .error (.value fault)

theorem decodeRaw_cases (raw : String) :
    (∃ fault, Yaml.Loader.load raw = .error (.value fault) ∧
      decodeRaw raw = .error (.badValue fault)) ∨
      Constructible raw ∧ ∃ value, Denotes raw value ∧ decodeRaw raw = .ok value := by
  unfold decodeRaw Constructible Denotes
  cases h : Yaml.Loader.load raw with
  | error e =>
    cases e with
    | value fault => exact .inl ⟨fault, rfl, rfl⟩
    | _ => exact .inr ⟨by simp, .str raw, .inr ⟨rfl, by simp⟩, rfl⟩
  | ok value =>
    right
    refine ⟨by simp, ?_⟩
    cases value with
    | seq | map | loop => exact ⟨_, .inl ⟨rfl, trivial⟩, rfl⟩
    | _ => exact ⟨.str raw, .inr ⟨rfl, by rintro _ ⟨⟩; exact id⟩, rfl⟩

theorem readable_iff : Readable raw ↔ Constructible raw := by
  rcases decodeRaw_cases raw with ⟨fault, hr, hd⟩ | ⟨hc, value, -, hd⟩
  · exact ⟨fun ⟨_, h⟩ => (by rw [hd] at h; cases h), fun h => absurd hr (h fault)⟩
  · exact ⟨fun _ => hc, fun _ => ⟨value, hd⟩⟩

theorem denotes_valueOf (h : Constructible raw) : Denotes raw (valueOf raw) := by
  rcases decodeRaw_cases raw with ⟨fault, hr, -⟩ | ⟨-, value, hv, hd⟩
  · exact absurd hr (h fault)
  · rwa [valueOf, hd]

/-! ### Paths in an overlay -/

/-- At the path of an override the overlay has its value. -/
theorem at?_overlay_of_value (ht : Tidy overrides)
    (h : node? overrides path = some (.value source raw)) :
    Datum.at? (.map (overlay settings overrides)) path = some (valueOf raw) := by
  induction path generalizing overrides settings with
  | nil => cases h
  | cons name rest ih =>
    rw [Datum.at?_map_cons]
    rcases hg : Table.get? overrides name with _ | ⟨s, r⟩ | ⟨owner, inner⟩
    · cases (node?_of_none hg).symm.trans h
    · rw [entry?_overlay_of_mem ht.names_nodup hg]
      obtain ⟨rfl, hx⟩ := of_node?_of_value hg h
      cases hx
      rfl
    · rw [entry?_overlay_of_mem ht.names_nodup hg]
      exact ih (ht.of_mem (Table.mem_of_get?_eq_some hg)) ((node?_eq_value_of_nested hg).1 h)

end Loader

/-- Every record of the overrides holds something. -/
def NoneEmpty (overrides : Table Override) : Prop :=
  ∀ path owner inner, node? overrides path = some (.nested owner inner) → inner ≠ []

theorem NoneEmpty.inner {owner : String} {inner : Table Override} (h : NoneEmpty overrides)
    (hg : Table.get? overrides name = some (.nested owner inner)) :
    inner ≠ [] ∧ NoneEmpty inner := by
  refine ⟨h [name] owner inner (by rw [node?, hg, Override.at?_nil]), ?_⟩
  intro path first known hp
  cases path with
  | nil => cases hp
  | cons next path =>
    refine h (name :: next :: path) first known ?_
    rw [node?, hg, Override.at?_nested_cons]
    exact hp

/-- Overrides without empty records set a value somewhere. -/
theorem exists_hasValue (ht : Tidy overrides) (hn : NoneEmpty overrides) (hne : overrides ≠ []) :
    ∃ path, HasValue overrides path := by
  induction ht with
  | intro hd _ ih =>
    obtain ⟨⟨name, x⟩, rest, rfl⟩ := List.exists_cons_of_ne_nil hne
    have hg : Table.get? ((name, x) :: rest) name = some x := if_pos rfl
    cases x with
    | value source raw => exact ⟨[name], source, raw, node?_of_value hg⟩
    | nested owner inner =>
      obtain ⟨hi, hinner⟩ := hn.inner hg
      obtain ⟨path, source, raw, hv⟩ := ih name owner inner List.mem_cons_self hinner hi
      exact ⟨name :: path, source, raw, (node?_eq_value_of_nested hg).2 hv⟩

/-- The path is neither on the way to a value of the overrides nor behind one. -/
def Apart (overrides : Table Override) (path : List String) : Prop :=
  ∀ other, HasValue overrides other → ¬ path <+: other ∧ ¬ other <+: path

theorem Apart.inner {owner : String} {inner : Table Override} {rest : List String}
    (h : Apart overrides (name :: rest))
    (hg : Table.get? overrides name = some (.nested owner inner)) : Apart inner rest := by
  rintro other ⟨source, raw, hv⟩
  have hother : HasValue overrides (name :: other) :=
    ⟨source, raw, (node?_eq_value_of_nested hg).2 hv⟩
  simpa using h _ hother

/-- Away from the values of the overrides, the overlay is as the settings. -/
theorem at?_overlay_of_apart [Yaml.Loader] (ht : Tidy overrides) (hn : NoneEmpty overrides)
    (hp : Apart overrides path) :
    Datum.at? (.map (overlay settings overrides)) path = Datum.at? (.map settings) path := by
  induction path generalizing overrides settings with
  | nil =>
    -- the empty path is on the way to every value, so there is none
    have he : overrides = [] := by
      by_contra hne
      obtain ⟨other, ho⟩ := exists_hasValue ht hn hne
      exact (hp other ho).1 List.nil_prefix
    rw [he, overlay]
  | cons name rest ih =>
    rw [Datum.at?_map_cons, Datum.at?_map_cons]
    rcases hg : Table.get? overrides name with _ | ⟨source, raw⟩ | ⟨owner, inner⟩
    · rw [entry?_overlay_of_notMem (Table.get?_eq_none.1 hg)]
    · have hv : HasValue overrides [name] := ⟨source, raw, node?_of_value hg⟩
      exact absurd (List.cons_prefix_cons.2 ⟨rfl, List.nil_prefix⟩) (hp _ hv).2
    · have hti := ht.of_mem (Table.mem_of_get?_eq_some hg)
      obtain ⟨hi, hinner⟩ := hn.inner hg
      have hapart := hp.inner hg
      rw [entry?_overlay_of_mem ht.names_nodup hg, Option.bind_some, replace,
        ih hti hinner hapart]
      -- the record is no end of the path, and a value that gives way to it leads nowhere
      obtain ⟨other, ho⟩ := exists_hasValue hti hinner hi
      obtain ⟨next, more, rfl⟩ : ∃ next more, rest = next :: more :=
        List.exists_cons_of_ne_nil fun he => (hapart other ho).1 (he ▸ List.nil_prefix)
      rcases Datum.entry? settings name with _ | value
      · rfl
      · cases value <;> rfl

/-! ### A second overlay -/

theorem overlay_eq_self [Yaml.Loader] (h : ∀ entry ∈ overrides, Datum.entry? settings entry.1 =
    some (replace (Datum.entry? settings entry.1) entry.2)) :
    overlay settings overrides = settings := by
  induction overrides with
  | nil => rw [overlay]
  | cons entry rest ih =>
    obtain ⟨hentry, hrest⟩ := List.forall_mem_cons.1 h
    rw [overlay_cons, Datum.setEntry_eq_self hentry, ih hrest]

/-- The same overrides once more change nothing. -/
theorem overlay_overlay [Yaml.Loader] (ht : Tidy overrides) :
    overlay (overlay settings overrides) overrides = overlay settings overrides := by
  induction ht generalizing settings with
  | @intro overrides hd _ ih =>
    refine overlay_eq_self fun entry he => ?_
    obtain ⟨name, x⟩ := entry
    rw [entry?_overlay_of_mem hd (Table.get?_of_mem hd he)]
    cases x with
    | value source raw => rfl
    | nested owner inner =>
      have hinner := @ih name owner inner he (entriesOf (Datum.entry? settings name))
      rw [replace, replace, entriesOf, hinner]

/-! ### Where overrides set values -/

theorem mem_originsOf_iff (ht : Tidy overrides) {x : Origin} :
    x ∈ originsOf here overrides ↔ ∃ path, x.path = here ++ path.map PathItem.name ∧
      node? overrides path = some (.value x.source x.raw) := by
  induction ht generalizing here with
  | @intro overrides hd _ ih =>
    rw [mem_originsOf_iff_get? hd]
    constructor
    · rintro ⟨name, o, hg, hx⟩
      cases o with
      | value source raw =>
        obtain rfl := List.mem_singleton.1 hx
        exact ⟨[name], by simp, node?_of_value hg⟩
      | nested owner inner =>
        obtain ⟨path, hp, hv⟩ := (ih name owner inner (Table.mem_of_get?_eq_some hg)).1 hx
        exact ⟨name :: path, by simp [hp], (node?_eq_value_of_nested hg).2 hv⟩
    · rintro ⟨path, hp, hv⟩
      cases path with
      | nil => cases hv
      | cons name rest =>
        rcases hg : Table.get? overrides name with _ | ⟨source, raw⟩ | ⟨owner, inner⟩
        · cases (node?_of_none hg).symm.trans hv
        · refine ⟨name, _, hg, ?_⟩
          obtain ⟨rfl, hx⟩ := of_node?_of_value hg hv
          cases hx
          rw [originsAt, List.mem_singleton, ← List.map_singleton (f := PathItem.name), ← hp]
        · have hi := (node?_eq_value_of_nested hg).1 hv
          refine ⟨name, _, hg, ?_⟩
          exact (ih name owner inner (Table.mem_of_get?_eq_some hg)).2 ⟨rest, by simp [hp], hi⟩

/-! ### The merge -/

/-- What a merge makes of settings: the texts of the overrides count at their paths, and a path away
from these leads where it did. Its origins are the paths that were set, and the same overrides once
more change nothing. -/
structure Merges [Yaml.Loader] (overrides : Table Override) (settings merged : List (Datum × Datum))
    (origins : List Origin) : Prop where
  value : ∀ path source raw, node? overrides path = some (.value source raw) →
    ∃ value, Denotes raw value ∧ Datum.at? (.map merged) path = some value
  frame : ∀ path, Apart overrides path →
    Datum.at? (.map merged) path = Datum.at? (.map settings) path
  origin : ∀ x, x ∈ origins ↔ ∃ path, x.path = path.map PathItem.name ∧
    node? overrides path = some (.value x.source x.raw)
  again : merge [] merged overrides = .ok (merged, origins)

/-- The overrides of an environment whose variables with the prefix are all mapped to fields change
what they name, and nothing else. -/
theorem merge_changes_named_paths [Yaml.Loader] {shape : Shape} {start : String}
    {environment : Bindings}
    (hm : Mapped shape start environment.names)
    (ho : Override.ofEnvironment shape start environment = .ok overrides)
    (hc : ∀ path source raw, node? overrides path = some (.value source raw) → Constructible raw)
    (settings : List (Datum × Datum)) : ∃ merged origins,
      merge [] settings overrides = .ok (merged, origins) ∧
        Merges overrides settings merged origins := by
  have htree : TreeOf shape start environment overrides :=
    (Override.ofEnvironment_cases hm).elim (fun ⟨_, he, _⟩ => by rw [ho] at he; cases he)
      fun ⟨_, he, h⟩ => Except.ok.inj (he.symm.trans ho) ▸ h
  have horigin : ∀ x, x ∈ originsOf [] overrides ↔ ∃ path, x.path = path.map PathItem.name ∧
      node? overrides path = some (.value x.source x.raw) := by
    intro x
    rw [mem_originsOf_iff htree.tidy]
    rfl
  have hr : ∀ x ∈ originsOf [] overrides, Readable x.raw := by
    intro x hx
    obtain ⟨path, -, hv⟩ := (horigin x).1 hx
    exact readable_iff.2 (hc path _ _ hv)
  refine ⟨overlay settings overrides, originsOf [] overrides, merge_of_readable hr, ?_⟩
  exact {
    value := fun path source raw hv =>
      ⟨valueOf raw, denotes_valueOf (hc path source raw hv), at?_overlay_of_value htree.tidy hv⟩
    frame := fun path hp => at?_overlay_of_apart htree.tidy htree.nonempty hp
    origin := horigin
    again := by rw [merge_of_readable hr, overlay_overlay htree.tidy] }

/-- Variables for two fields of one record, and one that is none of the program's. -/
def argoVariables : Bindings where
  entries := [("CSM_PLATFORM_ARGO__WORKFLOWS__ACCESSMODES", "[ReadWriteOnce]"), ("HOME", "/root"),
    ("CSM_PLATFORM_ARGO__IMAGEPULLPOLICY", "2020-01-01")]
  distinct := by decide

def argoOverrides : Table Override := [
  ("argo", .nested "CSM_PLATFORM_ARGO__IMAGEPULLPOLICY" [
    ("imagePullPolicy", .value "CSM_PLATFORM_ARGO__IMAGEPULLPOLICY" "2020-01-01"),
    ("workflows", .nested "CSM_PLATFORM_ARGO__WORKFLOWS__ACCESSMODES" [
      ("accessModes",
        .value "CSM_PLATFORM_ARGO__WORKFLOWS__ACCESSMODES" "[ReadWriteOnce]")])])]

/-- Settings in which one of the records on the way is no mapping. -/
def argoSettings : List (Datum × Datum) := Datum.ofFields [
  ("version", .str "1"),
  ("argo", .obj [("baseUri", .str "https://argo"), ("workflows", .str "none")])]

theorem argoVariables_merge : ∃ merged origins,
    merge [] argoSettings argoOverrides = .ok (merged, origins) ∧
      Datum.at? (.map merged) ["argo", "imagePullPolicy"] = some (.str "2020-01-01") ∧
      Datum.at? (.map merged) ["argo", "workflows", "accessModes"] =
        some (.seq [.str "ReadWriteOnce"]) ∧
      Datum.at? (.map merged) ["argo", "baseUri"] = some (.str "https://argo") ∧
      Datum.at? (.map merged) ["argo", "workflows", "requests"] = none ∧
      merge [] merged argoOverrides = .ok (merged, origins) := by
  have hsorted : Override.sorted argoVariables =
      [("CSM_PLATFORM_ARGO__IMAGEPULLPOLICY", "2020-01-01"),
        ("CSM_PLATFORM_ARGO__WORKFLOWS__ACCESSMODES", "[ReadWriteOnce]"), ("HOME", "/root")] :=
    Override.sorted_eq (by decide) (by decide)
  have ho : Override.ofEnvironment PlatformSettings.decoder.shape defaultPrefix argoVariables =
      .ok argoOverrides := by
    rw [Override.ofEnvironment_eq, hsorted]
    rfl
  have hdate : Yaml.Loader.load "2020-01-01" = .ok (.date 2020 1 1) := by decide +kernel
  have hlist : Yaml.Loader.load "[ReadWriteOnce]" = .ok (.seq [.str "ReadWriteOnce"]) := by
    decide +kernel
  have hleaves : ∀ path source raw, node? argoOverrides path = some (.value source raw) →
      path = ["argo", "imagePullPolicy"] ∧ raw = "2020-01-01" ∨
        path = ["argo", "workflows", "accessModes"] ∧ raw = "[ReadWriteOnce]" := by
    intro path source raw hv
    have hx : (⟨path.map .name, source, raw⟩ : Origin) ∈ originsOf [] argoOverrides :=
      (mem_originsOf_iff (Override.tidy_nil.insertAll ho)).2 ⟨path, rfl, hv⟩
    simp [originsOf, argoOverrides, List.map_eq_cons_iff] at hx
    exact hx.imp (fun h => ⟨h.1, h.2.2⟩) fun h => ⟨h.1, h.2.2⟩
  obtain ⟨merged, origins, hmerge, h⟩ := merge_changes_named_paths (by decide +kernel) ho
    (fun path source raw hv => by
      rcases hleaves path source raw hv with ⟨-, rfl⟩ | ⟨-, rfl⟩
      · exact fun fault => by simp [hdate]
      · exact fun fault => by simp [hlist]) argoSettings
  refine ⟨merged, origins, hmerge, ?_, ?_, ?_, ?_, h.again⟩
  · obtain ⟨value, ⟨hr, hc⟩ | ⟨rfl, -⟩, hv⟩ := h.value ["argo", "imagePullPolicy"] _ _ rfl
    · rw [hdate] at hr
      cases hr
      exact hc.elim
    · exact hv
  · obtain ⟨value, ⟨hr, -⟩ | ⟨-, hn⟩, hv⟩ := h.value ["argo", "workflows", "accessModes"] _ _ rfl
    · rw [hlist] at hr
      cases hr
      exact hv
    · exact (hn _ hlist trivial).elim
  · rw [h.frame]
    · rfl
    · rintro other ⟨source, raw, hv⟩
      rcases hleaves _ _ _ hv with ⟨rfl, -⟩ | ⟨rfl, -⟩ <;> decide
  · rw [h.frame]
    · rfl
    · rintro other ⟨source, raw, hv⟩
      rcases hleaves _ _ _ hv with ⟨rfl, -⟩ | ⟨rfl, -⟩ <;> decide

end Settings

end ScenarioCompiler
