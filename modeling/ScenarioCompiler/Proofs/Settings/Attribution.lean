import ScenarioCompiler.Proofs.Settings.GoverningVariables
import ScenarioCompiler.Proofs.Settings.OverlaidPaths
import ScenarioCompiler.Proofs.Settings.UnmappedVariable

namespace ScenarioCompiler.Settings

open Override (Governs node?_eq_value_iff)
open Schema (Cause PathItem Problem)

variable {source : Source} {environment : Bindings} {variablePrefix : String}
  {origins : List Origin} {overrides : Table Override} {x : Origin}
  {settings merged : List (Datum × Datum)} {reported : List Problem}

/-! ### The origin of a place -/

/-- If no origin lies above another one, the origin of a place is the one that it lies at or
under. -/
theorem originOf?_eq_some_iff {place : List PathItem} (hne : ∀ x ∈ origins, x.path ≠ [])
    (hf : ∀ x ∈ origins, ∀ y ∈ origins, x.path <+: y.path → x = y) :
    originOf? origins place = some x ↔ x ∈ origins ∧ x.path <+: place := by
  have hfound : ∀ {y}, originOf? origins place = some y → y ∈ origins ∧ y.path <+: place := by
    intro y h
    obtain ⟨k, -, hk⟩ := List.exists_of_findSome?_eq_some h
    have hp : y.path = place.take (k + 1) := by simpa using List.find?_some hk
    exact ⟨List.mem_of_find?_eq_some hk, hp ▸ List.take_prefix _ _⟩
  refine ⟨hfound, fun ⟨hx, hp⟩ => ?_⟩
  cases hy : originOf? origins place with
  | some y =>
    obtain ⟨hm, hp'⟩ := hfound hy
    rcases Nat.le_total x.path.length y.path.length with hl | hl
    · rw [hf x hx y hm (List.prefix_of_prefix_length_le hp hp' hl)]
    · rw [hf y hm x hx (List.prefix_of_prefix_length_le hp' hp hl)]
  | none =>
    -- the search looks at the beginning of the place that is as long as the path of the origin
    rw [originOf?, List.findSome?_eq_none_iff] at hy
    have hpos : 0 < x.path.length := List.length_pos_iff.2 (hne x hx)
    have hk : x.path.length - 1 ∈ (List.range place.length).reverse := by
      rw [List.mem_reverse, List.mem_range]
      have := hp.length_le
      omega
    have hn := List.find?_eq_none.1 (hy _ hk) x hx
    rw [Nat.sub_add_cancel hpos, ← List.prefix_iff_eq_take.1 hp] at hn
    simp at hn

/-- The variable sets the value at a path. -/
def SetsPath (environment : Bindings) (variablePrefix : String) (path : List String)
    (source raw : String) : Prop :=
  Governs PlatformSettings.decoder.shape variablePrefix environment path source raw

/-- The origins of an environment are the paths that its variables set. -/
theorem mem_originsOf_iff_setsPath (ho : Override.ofEnvironment PlatformSettings.decoder.shape
    variablePrefix environment = .ok overrides) :
    x ∈ originsOf [] overrides ↔ ∃ path, x.path = path.map PathItem.name ∧
      SetsPath environment variablePrefix path x.source x.raw := by
  simp only [mem_originsOf_iff (tidy_of_ofEnvironment ho), node?_eq_value_iff ho, List.nil_append,
    SetsPath]

theorem originsOf_apart (ho : Override.ofEnvironment PlatformSettings.decoder.shape variablePrefix
    environment = .ok overrides) :
    ∀ x ∈ originsOf [] overrides, ∀ y ∈ originsOf [] overrides, x.path <+: y.path → x = y := by
  intro x hx y hy hp
  refine origin_unique (tidy_of_ofEnvironment ho) hx hy ?_
  obtain ⟨path, hxp, hxs⟩ := (mem_originsOf_iff_setsPath ho).1 hx
  obtain ⟨other, hyp, hys⟩ := (mem_originsOf_iff_setsPath ho).1 hy
  rw [hxp, hyp] at hp ⊢
  have hle : path <+: other :=
    (List.prefix_map_iff_of_injective fun _ _ h => PathItem.name.inj h).1 hp
  rw [(hxs.eq_of_prefix ho hys hle).1]

/-! ### Problems under the variables of an environment -/

/-- The place lies at or under a path. -/
def Reaches (place : List PathItem) (path : List String) : Prop :=
  path.map PathItem.name <+: place

theorem prefix_of_reaches {place : List PathItem} {path other : List String}
    (hp : Reaches place path) (ho : Reaches place other) (hl : path.length ≤ other.length) :
    path <+: other :=
  (List.prefix_map_iff_of_injective fun _ _ h => PathItem.name.inj h).1
    (List.prefix_of_prefix_length_le hp ho (by simpa using hl))

/-- A problem and its report: where a variable has set what the problem is in, its name and its text
stand for the path that it has set, and any other problem is reported as it is. -/
inductive Attributed (environment : Bindings) (variablePrefix : String) : Problem → Problem → Prop
  | named {path : List String} {source raw : String} {rest : List PathItem} {cause : Cause}
      (sets : SetsPath environment variablePrefix path source raw) :
      Attributed environment variablePrefix ⟨path.map .name ++ rest, cause⟩
        ⟨.name (source ++ "=\"" ++ raw ++ "\"") :: rest, cause⟩
  | kept {problem : Problem}
      (unset : ∀ path source raw, SetsPath environment variablePrefix path source raw →
        ¬ Reaches problem.path path) :
      Attributed environment variablePrefix problem problem

theorem attributed_ascribe (ho : Override.ofEnvironment PlatformSettings.decoder.shape
    variablePrefix environment = .ok overrides) (problem : Problem) :
    Attributed environment variablePrefix problem (ascribe (originsOf [] overrides) problem) := by
  have hne : ∀ x ∈ originsOf [] overrides, x.path ≠ [] := by
    intro x hx he
    obtain ⟨path, hp, hs⟩ := (mem_originsOf_iff_setsPath ho).1 hx
    rw [he, eq_comm, List.map_eq_nil_iff] at hp
    subst hp
    -- the tree of the variables holds no value at the empty path
    cases (node?_eq_value_iff ho).2 hs
  have horigin := fun x => @originOf?_eq_some_iff _ x problem.path hne (originsOf_apart ho)
  unfold ascribe
  cases h : originOf? (originsOf [] overrides) problem.path with
  | none =>
    refine .kept fun path source raw hs hp => ?_
    have hx : (⟨path.map .name, source, raw⟩ : Origin) ∈ originsOf [] overrides :=
      (mem_originsOf_iff_setsPath ho).2 ⟨path, rfl, hs⟩
    rw [(horigin _).2 ⟨hx, hp⟩] at h
    cases h
  | some x =>
    obtain ⟨hx, rest, hrest⟩ := (horigin x).1 h
    obtain ⟨path, hp, hs⟩ := (mem_originsOf_iff_setsPath ho).1 hx
    obtain ⟨place, cause⟩ := problem
    obtain rfl : x.path ++ rest = place := hrest
    dsimp only
    rw [List.drop_left, hp]
    exact .named hs

theorem entries_ne_invalid [Yaml.Loader] : source.entries ≠ .error (.invalid reported) := by
  intro h
  rw [Source.entries, bind_eq_error] at h
  rcases h with h | ⟨document, -, h⟩
  · rcases source with _ | _ | text
    · cases h
    · cases h
    · obtain ⟨_, -, he⟩ := mapError_eq_error.1 h
      cases he
  rw [bind_eq_error] at h
  rcases h with h | ⟨json, -, h⟩
  · obtain ⟨_, -, he⟩ := mapError_eq_error.1 h
    cases he
  rw [bind_eq_error] at h
  rcases h with h | ⟨_, -, h⟩
  · unfold platformSection at h
    repeat' split at h
    all_goals cases h
  · exact pure_ne_error h

theorem of_settingsOf_eq_invalid [Yaml.Loader]
    (h : settingsOf settings overrides = .error (.invalid reported)) :
    ∃ merged found, merge [] settings overrides = .ok (merged, originsOf [] overrides) ∧
      PlatformSettings.decoder.read (.map merged) = .error found ∧
      reported = found.map (ascribe (originsOf [] overrides)) := by
  by_cases hr : ∀ x ∈ originsOf [] overrides, Readable x.raw
  · have hm : merge [] settings overrides = _ := merge_of_readable hr
    rw [settingsOf, hm, ok_bind] at h
    obtain ⟨found, hf, he⟩ := mapError_eq_error.1 h
    exact ⟨_, found, hm, hf, (LoadError.invalid.inj he).symm⟩
  · obtain ⟨fault, hf⟩ := merge_of_not_readable settings (by simpa using hr)
    rw [settingsOf, hf, error_bind] at h
    cases h

/-- The problems of settings are those of the document under the variables of the environment, in
its order. Each is reported under the name and the text of the variable that has set what it is in,
with the rest of its place, or as it is where none has; and there is at most one such variable. -/
theorem problems_are_attributed [Yaml.Loader]
    (h : load source environment variablePrefix = .error (.invalid reported)) :
    ∃ entries overrides merged origins found, source.entries = .ok entries ∧
      Override.ofEnvironment PlatformSettings.decoder.shape variablePrefix environment =
        .ok overrides ∧
      merge [] entries overrides = .ok (merged, origins) ∧
      PlatformSettings.decoder.read (.map merged) = .error found ∧
      List.Forall₂ (Attributed environment variablePrefix) found reported ∧
      ∀ place path source raw path' source' raw',
        SetsPath environment variablePrefix path source raw → Reaches place path →
        SetsPath environment variablePrefix path' source' raw' → Reaches place path' →
          path = path' ∧ source = source' ∧ raw = raw' := by
  rw [load_eq, bind_eq_error] at h
  obtain ⟨entries, he, h⟩ := h.resolve_left entries_ne_invalid
  rw [bind_eq_error] at h
  rcases h with h | ⟨overrides, ho, h⟩
  · obtain ⟨_, -, hc⟩ := mapError_eq_error.1 h
    cases hc
  have ho := mapError_eq_ok.1 ho
  obtain ⟨merged, found, hm, hf, rfl⟩ := of_settingsOf_eq_invalid h
  refine ⟨entries, overrides, merged, _, found, he, ho, hm, hf, ?_, ?_⟩
  · exact List.forall₂_map_right_iff.2
      (List.forall₂_same.2 fun problem _ => attributed_ascribe ho problem)
  · intro place path source raw path' source' raw' hs hp hs' hp'
    rcases Nat.le_total path.length path'.length with hl | hl
    · exact hs.eq_of_prefix ho hs' (prefix_of_reaches hp hp' hl)
    · obtain ⟨h, h', h''⟩ := hs'.eq_of_prefix ho hs (prefix_of_reaches hp' hp hl)
      exact ⟨h.symm, h'.symm, h''.symm⟩

/-- A variable for a whole record, and one for a mapping of texts. -/
def malformedVariables : Bindings where
  entries := [("CSM_PLATFORM_TWINCACHE", "[a]"),
    ("CSM_PLATFORM_ARGO__WORKFLOWS__REQUESTS", "\x7bstorage: [1]\x7d")]
  distinct := by decide

/-- Settings without images. -/
def partialDocument : Datum := .map [(.str "api", .map [(.str "baseUrl", .str "u")])]

/-- The record as a whole, the images, which no variable has set, and one of the texts. -/
def malformedReport : List Problem := [
  ⟨[.name "CSM_PLATFORM_TWINCACHE=\"[a]\""], .notRecord "TwinCache"⟩,
  ⟨[.name "images"], .missing⟩,
  ⟨[.name "CSM_PLATFORM_ARGO__WORKFLOWS__REQUESTS=\"\x7bstorage: [1]\x7d\"", .name "storage"],
    .notText⟩]

theorem malformedVariables_attributed :
    load (.data partialDocument) malformedVariables defaultPrefix =
        .error (.invalid malformedReport) ∧
      ∃ found,
        List.Forall₂ (Attributed malformedVariables defaultPrefix) found malformedReport := by
  have hsorted : Override.sorted malformedVariables =
      [("CSM_PLATFORM_ARGO__WORKFLOWS__REQUESTS", "\x7bstorage: [1]\x7d"),
        ("CSM_PLATFORM_TWINCACHE", "[a]")] := Override.sorted_eq (by decide) (by decide)
  have ho : Override.ofEnvironment PlatformSettings.decoder.shape defaultPrefix
      malformedVariables = .ok [
        ("argo", .nested "CSM_PLATFORM_ARGO__WORKFLOWS__REQUESTS" [
          ("workflows", .nested "CSM_PLATFORM_ARGO__WORKFLOWS__REQUESTS" [
            ("requests",
              .value "CSM_PLATFORM_ARGO__WORKFLOWS__REQUESTS" "\x7bstorage: [1]\x7d")])]),
        ("twincache", .value "CSM_PLATFORM_TWINCACHE" "[a]")] := by
    rw [Override.ofEnvironment_eq, hsorted]
    rfl
  have hrequests : decodeRaw "\x7bstorage: [1]\x7d" =
      .ok (.map [(.str "storage", .seq [.int 1])]) := by decide +kernel
  have htwincache : decodeRaw "[a]" = .ok (.seq [.str "a"]) := by decide +kernel
  have hload : load (.data partialDocument) malformedVariables defaultPrefix =
      .error (.invalid malformedReport) := by
    rw [load_eq, ho]
    simp only [mapError_ok, ok_bind, settingsOf, merge, hrequests, htwincache, pure]
    rfl
  obtain ⟨_, _, _, _, found, -, -, -, -, h, -⟩ := problems_are_attributed hload
  exact ⟨hload, found, h⟩

end ScenarioCompiler.Settings
