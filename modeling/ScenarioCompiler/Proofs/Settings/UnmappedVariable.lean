import ScenarioCompiler.Proofs.Settings.Placement
import ScenarioCompiler.Proofs.Settings.Variables

namespace ScenarioCompiler.Settings

open Override Schema

/-- The mapping that variables override: the platform's section of a source. -/
def Source.entries [Yaml.Loader] (source : Source) : Except LoadError (List (Datum × Datum)) := do
  let document ← source.document
  let json ← (if document.isVoid then .ok (.obj []) else document.toJson).mapError .notJson
  pure (Datum.ofFields (← platformSection json))

/-- The settings that overrides make of a mapping. -/
def settingsOf [Yaml.Loader] (entries : List (Datum × Datum)) (overrides : Table Override) :
    Except LoadError PlatformSettings := do
  let (entries, origins) ← merge [] entries overrides
  (PlatformSettings.decoder.read (.map entries)).mapError fun problems =>
    .invalid (problems.map (ascribe origins))

variable {source : Source} {environment : Bindings} {variablePrefix name : String}
  {entries : List (Datum × Datum)} {overrides others : Table Override} {fields : List String}

theorem load_eq [Yaml.Loader] : load source environment variablePrefix =
    source.entries >>= fun entries =>
      (ofEnvironment PlatformSettings.decoder.shape variablePrefix environment).mapError
        .conflict >>= settingsOf entries := by
  rw [load, Source.entries]
  cases source.document with
  | error e => rfl
  | ok document =>
    simp only [ok_bind, ofDocument, overlaid]
    cases (if document.isVoid then .ok (.obj []) else document.toJson).mapError
      LoadError.notJson with
    | error e => rfl
    | ok json =>
      simp only [ok_bind]
      cases platformSection json with
      | error e => rfl
      | ok fields =>
        simp only [ok_bind]
        cases (ofEnvironment PlatformSettings.decoder.shape variablePrefix environment).mapError
          LoadError.conflict <;> rfl

theorem settingsOf_agrees [Yaml.Loader] (ha : Agrees fields overrides others) (ht : Tidy overrides)
    (ht' : Tidy others) (hs : Supplied fields entries others)
    (hw : Within PlatformSettings.decoder.shape fields) :
    settingsOf entries overrides = settingsOf entries others ∨ ∃ fault fault',
      settingsOf entries overrides = .error (.badValue fault) ∧
        settingsOf entries others = .error (.badValue fault') := by
  have hm : ∀ x, x ∈ originsOf [] overrides ↔ x ∈ originsOf [] others :=
    fun x => mem_originsOf_congr ha ht ht'
  -- the same values are read on both sides, though not in the same order
  by_cases hr : ∀ x ∈ originsOf [] overrides, Readable x.raw
  · have hr' : ∀ x ∈ originsOf [] others, Readable x.raw := fun x hx => hr x ((hm x).2 hx)
    have hread := PlatformSettings.placeless fields _ _ hw (overlay_alike ha ht ht' hs)
    have hascribe := ascribe_congr hm fun x hx y hy => origin_unique ht' hx hy
    left
    simp only [settingsOf, merge_of_readable hr, merge_of_readable hr', ok_bind, hread, hascribe]
  · have hn : ∃ x ∈ originsOf [] overrides, ¬ Readable x.raw := by simpa using hr
    have hn' : ∃ x ∈ originsOf [] others, ¬ Readable x.raw := by
      obtain ⟨x, hx, hn⟩ := hn
      exact ⟨x, (hm x).1 hx, hn⟩
    obtain ⟨fault, hf⟩ := merge_of_not_readable entries hn
    obtain ⟨fault', hf'⟩ := merge_of_not_readable entries hn'
    exact .inr ⟨fault, fault', by rw [settingsOf, hf, error_bind],
      by rw [settingsOf, hf', error_bind]⟩

/-- The fields that the name of a variable leads through. -/
def wayOf (variablePrefix name : String) : List String :=
  reach PlatformSettings.decoder.shape (parts variablePrefix name)

/-- What the name of a variable leads through is there without the variable: no other one sets one
of these fields, and each of them holds a mapping or has another variable that leads into it. -/
structure Backed [Yaml.Loader] (source : Source) (environment : Bindings)
    (variablePrefix name : String) : Prop where
  uncovered : NoneCovers PlatformSettings.decoder.shape variablePrefix
    (environment.without name).entries (wayOf variablePrefix name)
  supplied : ∀ entries, source.entries = .ok entries →
    ∀ way, way <+: wayOf variablePrefix name → way ≠ [] → HasMappings way entries ∨
      ∃ other ∈ (environment.without name).names,
        Enters PlatformSettings.decoder.shape (parts variablePrefix other) way

theorem tidy_of_ofEnvironment {shape : Shape}
    (h : ofEnvironment shape variablePrefix environment = .ok overrides) : Tidy overrides :=
  tidy_nil.insertAll h

theorem Backed.supplied_overrides [Yaml.Loader]
    (hb : Backed source environment variablePrefix name)
    (he : source.entries = .ok entries)
    (ho : ofEnvironment PlatformSettings.decoder.shape variablePrefix (environment.without name) =
      .ok overrides) : Supplied (wayOf variablePrefix name) entries overrides := by
  intro way hw hne
  refine (hb.supplied entries he way hw hne).imp_right ?_
  rintro ⟨other, hm, henters⟩
  exact nestedAt_of_mem ((names_sorted_perm _).mem_iff.2 hm) henters ho

/-- A variable with a part that is no field is ignored if what its name leads through is there
without it. At most, of the values that YAML cannot make another one is reported. -/
theorem unmapped_variable_ignored [Yaml.Loader] (hm : name ∈ environment.names)
    (hu : Unmapped PlatformSettings.decoder.shape (parts variablePrefix name))
    (hb : Backed source environment variablePrefix name) :
    load source environment variablePrefix =
        load source (environment.without name) variablePrefix ∨
      ∃ fault fault', load source environment variablePrefix = .error (.badValue fault) ∧
        load source (environment.without name) variablePrefix = .error (.badValue fault') := by
  rw [load_eq, load_eq]
  cases he : source.entries with
  | error e => exact .inl rfl
  | ok entries =>
    simp only [ok_bind]
    rcases ofEnvironment_without hm hu hb.uncovered with ⟨c, hc, hc'⟩ | ⟨result, other, hr, ho, ha⟩
    · rw [hc, hc']
      exact .inl rfl
    · have hs := hb.supplied_overrides he ho
      have hw := within_reach PlatformSettings.distinct_shape (parts variablePrefix name)
      rw [hr, ho]
      exact settingsOf_agrees ha (tidy_of_ofEnvironment hr) (tidy_of_ofEnvironment ho) hs hw

/-- A document with no more than what is required. -/
def coreDocument : Datum := .map [
  (.str "api", .map [(.str "baseUrl", .str "https://api")]),
  (.str "images", .map [
    (.str "scenarioFetchParameters", .str "fetch"), (.str "sendDataWarehouse", .str "send")])]

/-- A variable that sets a field of a record, and one that names a field which the record lacks. -/
def backedEnvironment : Bindings where
  entries := [("CSM_PLATFORM_ARGO__POLICY", "Never"),
    ("CSM_PLATFORM_ARGO__IMAGEPULLPOLICY", "Always")]
  distinct := by decide

theorem backedEnvironment_ignored :
    load (.data coreDocument) backedEnvironment defaultPrefix =
        load (.data coreDocument) (backedEnvironment.without "CSM_PLATFORM_ARGO__POLICY")
          defaultPrefix ∨
      ∃ fault fault', load (.data coreDocument) backedEnvironment defaultPrefix =
          .error (.badValue fault) ∧
        load (.data coreDocument) (backedEnvironment.without "CSM_PLATFORM_ARGO__POLICY")
          defaultPrefix = .error (.badValue fault') := by
  have hothers : (backedEnvironment.without "CSM_PLATFORM_ARGO__POLICY").names =
      ["CSM_PLATFORM_ARGO__IMAGEPULLPOLICY"] := by decide
  have hway : wayOf defaultPrefix "CSM_PLATFORM_ARGO__POLICY" = ["argo"] := by decide +kernel
  refine unmapped_variable_ignored (by decide) (by decide +kernel) ⟨?_, ?_⟩
  · intro other ho
    obtain rfl : other = "CSM_PLATFORM_ARGO__IMAGEPULLPOLICY" :=
      List.mem_singleton.1 (hothers ▸ (show other ∈ Bindings.names _ from ho))
    decide +kernel
  · intro entries _ way hw hne
    rw [hway, List.prefix_cons_iff] at hw
    obtain rfl | ⟨_, rfl, hw⟩ := hw
    · exact absurd rfl hne
    · obtain rfl := List.prefix_nil.1 hw
      exact .inr ⟨_, hothers ▸ List.mem_singleton_self _, by decide +kernel⟩

/-- A variable that names a field which a record lacks, and nothing that backs it. -/
def strayEnvironment : Bindings := ⟨[("CSM_PLATFORM_AZURE__POLICY", "Never")], by decide⟩

/-- Where nothing backs it, a variable is not ignored: it leaves an empty record behind, which
lacks what the record requires. -/
theorem strayEnvironment_not_ignored :
    "CSM_PLATFORM_AZURE__POLICY" ∈ strayEnvironment.names ∧
      Unmapped PlatformSettings.decoder.shape
        (parts defaultPrefix "CSM_PLATFORM_AZURE__POLICY") ∧
      load (.data coreDocument) strayEnvironment defaultPrefix =
        .error (.invalid [⟨[.name "azure", .name "credentials"], .missing⟩]) ∧
      ∃ settings, load (.data coreDocument)
        (strayEnvironment.without "CSM_PLATFORM_AZURE__POLICY") defaultPrefix = .ok settings := by
  have hoverrides : ofEnvironment PlatformSettings.decoder.shape defaultPrefix strayEnvironment =
      .ok [("azure", .nested "CSM_PLATFORM_AZURE__POLICY" [])] := by
    rw [ofEnvironment, strayEnvironment, List.mergeSort_singleton]
    rfl
  have hempty : (strayEnvironment.without "CSM_PLATFORM_AZURE__POLICY").entries = [] := by decide
  have hnone : ofEnvironment PlatformSettings.decoder.shape defaultPrefix
      (strayEnvironment.without "CSM_PLATFORM_AZURE__POLICY") = .ok [] := by
    rw [ofEnvironment, hempty, List.mergeSort_nil]
    rfl
  refine ⟨by decide, by decide +kernel, ?_, ?_⟩
  · rw [load_eq, hoverrides]
    simp only [mapError_ok, ok_bind, settingsOf, merge, pure]
    rfl
  · rw [load_eq, hnone]
    simp only [mapError_ok, ok_bind, settingsOf, merge]
    exact ⟨_, rfl⟩

/-- A variable whose name begins with no field is always ignored. -/
theorem unknown_variable_ignored [Yaml.Loader] (hm : name ∈ environment.names)
    (hu : Unmapped PlatformSettings.decoder.shape (parts variablePrefix name))
    (hn : wayOf variablePrefix name = []) :
    load source environment variablePrefix =
      load source (environment.without name) variablePrefix := by
  have hc : NoneCovers PlatformSettings.decoder.shape variablePrefix
      (environment.without name).entries (wayOf variablePrefix name) := by
    rintro other - ⟨hne, hmapped, hp⟩
    rw [hn, List.prefix_nil] at hp
    rw [Unmapped, hp] at hmapped
    exact hmapped (List.length_pos_iff.2 hne)
  rw [load_eq, load_eq]
  rcases ofEnvironment_without hm hu hc with ⟨c, h, h'⟩ | ⟨result, other, h, h', ha⟩
  · rw [h, h']
  · have hn : reach PlatformSettings.decoder.shape (parts variablePrefix name) = [] := hn
    rw [hn] at ha
    rw [h, h', show result = other from ha]

end ScenarioCompiler.Settings
