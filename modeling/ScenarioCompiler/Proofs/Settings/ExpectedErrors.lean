import ScenarioCompiler.Proofs.Settings.Attribution
import ScenarioCompiler.Proofs.Settings.Loading
import ScenarioCompiler.Proofs.Settings.Session

namespace ScenarioCompiler.Settings

open Override (node?_eq_value_iff)

variable {document : Datum} {environment : Bindings} {variablePrefix : String}
  {overrides : Table Override} {origins : List Origin} {entries merged : List (Datum × Datum)}
  {fields : Table Json} {session : Session}

/-- Settings, or an error that callers are told of: variables in conflict, or invalid settings. -/
def Expected : Except LoadError PlatformSettings → Prop
  | .ok _ | .error (.conflict _) | .error (.invalid _) => True
  | .error _ => False

/-- What a session answers to a call that has a JSON mapping for data and accepts no settings of an
earlier call. -/
def Session.fresh [Yaml.Loader] (session : Session) (fields : Table Json)
    (environment : Bindings) : Except LoadError PlatformSettings :=
  (session.answer ⟨.data (.ofJson (.obj fields)), environment, defaultPrefix, false⟩).2.map
    Loaded.settings

/-- The lists and mappings that variables set can be shown in a report. -/
def Presentable [Yaml.Loader] (environment : Bindings) (variablePrefix : String) : Prop :=
  ∀ path source raw value, SetsPath environment variablePrefix path source raw →
    Yaml.Loader.load raw = .ok value → value.IsCollection → value.Reportable

section Loader

variable [Yaml.Loader]

/-! ### Reports -/

theorem exists_overrides_of_overlaid
    (h : overlaid document environment variablePrefix = .ok (merged, origins)) :
    IsTable document ∧ ∃ overrides,
      Override.ofEnvironment PlatformSettings.decoder.shape variablePrefix environment =
          .ok overrides ∧
        ∀ x ∈ originsOf [] overrides, Readable x.raw := by
  constructor
  · by_contra ht
    rcases overlaid_of_not_isTable ht with hn | ⟨_, hn⟩ <;> · rw [h] at hn; cases hn
  · simp only [overlaid, bind_eq_ok, mapError_eq_ok] at h
    obtain ⟨json, -, found, -, overrides, ho, hm⟩ := h
    refine ⟨overrides, ho, ?_⟩
    by_contra hr
    obtain ⟨fault, hf⟩ := merge_of_not_readable (Datum.ofFields found) (by simpa using hr)
    rw [hm] at hf
    cases hf

/-- Presentable variables leave nothing that a report could not show. -/
theorem Presentable.reportFault?_eq_none (h : Presentable environment variablePrefix) :
    reportFault? document environment variablePrefix = none := by
  cases hd : overlaid document environment variablePrefix with
  | error e => rw [reportFault?, hd]
  | ok found =>
    obtain ⟨ht, overrides, ho, hr⟩ := exists_overrides_of_overlaid hd
    refine Orderly.reportFault?_eq_none ⟨ht, fun others hother x hx => ?_⟩
    obtain rfl := Except.ok.inj (ho.symm.trans hother)
    obtain ⟨path, -, hs⟩ := (mem_originsOf_iff_setsPath ho).1 hx
    refine ⟨valueOf x.raw, decodeRaw_of_readable (hr x hx), ?_⟩
    rcases denotes_valueOf (readable_iff.1 (hr x hx)) with ⟨hread, hc⟩ | ⟨hstr, -⟩
    · exact h path x.source x.raw _ hs hread hc
    · rw [hstr]
      exact trivial

/-! ### Calls -/

theorem fresh_eq (h : Presentable environment defaultPrefix) : session.fresh fields environment =
    (Source.data (.ofJson (.obj fields))).entries >>= fun entries =>
      (Override.ofEnvironment PlatformSettings.decoder.shape defaultPrefix environment).mapError
        .conflict >>= settingsOf entries := by
  rw [← load_eq, Session.fresh, Session.answer_of_attempts (by simp [Session.attempts])]
  have ha : reported (.ofJson (.obj fields)) environment defaultPrefix =
      ofDocument (.ofJson (.obj fields)) environment defaultPrefix :=
    reported_of_reportFault?_eq_none h.reportFault?_eq_none
  simp only [Call.attempt, load, Source.document, ok_bind, ha]
  cases ofDocument (.ofJson (.obj fields)) environment defaultPrefix <;> rfl

theorem entries_of_writable (h : (Datum.ofJson (.obj fields)).Writable) :
    ∃ entries, (Source.data (.ofJson (.obj fields))).entries = .ok entries := by
  obtain ⟨json, found, hj, hs, -⟩ :=
    @IsTable.exists_section (.ofJson (.obj fields)) (.inr ⟨_, rfl, h⟩)
  exact ⟨Datum.ofFields found, by
    simp only [Source.entries, Source.document, ok_bind, hj, mapError_ok, hs]; rfl⟩

theorem entries_of_not_writable (h : ¬ (Datum.ofJson (.obj fields)).Writable) :
    ∃ fault, (Source.data (.ofJson (.obj fields))).entries = .error (.notJson fault) := by
  have hvoid : (Datum.ofJson (.obj fields)).isVoid = false := by
    cases fields with
    | nil => exact absurd trivial h
    | cons => rfl
  cases hj : (Datum.ofJson (.obj fields)).toJson with
  | ok json => exact absurd ((Datum.exists_toJson _).1 ⟨json, hj⟩) h
  | error fault =>
    refine ⟨fault, ?_⟩
    simp [Source.entries, Source.document, ok_bind, hvoid, hj, mapError_error, error_bind]

theorem forall_readable_iff (ho : Override.ofEnvironment PlatformSettings.decoder.shape
    variablePrefix environment = .ok overrides) :
    (∀ x ∈ originsOf [] overrides, Readable x.raw) ↔
      ∀ path source raw, SetsPath environment variablePrefix path source raw →
        Constructible raw := by
  constructor
  · intro h path source raw hs
    refine readable_iff.1 (h ⟨path.map .name, source, raw⟩ ?_)
    exact (mem_originsOf_iff_setsPath ho).2 ⟨path, rfl, hs⟩
  · intro h x hx
    obtain ⟨path, -, hs⟩ := (mem_originsOf_iff_setsPath ho).1 hx
    exact readable_iff.2 (h path x.source x.raw hs)

/-- The settings are read from the data under the variables, in which every text that is no list
and no mapping stands as it is. -/
structure Validates (fields : Table Json) (environment : Bindings)
    (outcome : Except LoadError PlatformSettings) (overrides : Table Override)
    (entries merged : List (Datum × Datum)) (origins : List Origin) : Prop where
  entries_eq : (Source.data (.ofJson (.obj fields))).entries = .ok entries
  overrides_eq : Override.ofEnvironment PlatformSettings.decoder.shape defaultPrefix environment =
    .ok overrides
  merge_eq : merge [] entries overrides = .ok (merged, origins)
  outcome_eq : outcome = (PlatformSettings.decoder.read (.map merged)).mapError fun problems =>
    .invalid (problems.map (ascribe origins))
  unchanged : ∀ path source raw, SetsPath environment defaultPrefix path source raw →
    (∀ value, Yaml.Loader.load raw = .ok value → ¬ value.IsCollection) →
      Datum.at? (.map merged) path = some (.str raw)

theorem validates (h : Presentable environment defaultPrefix)
    (he : (Source.data (.ofJson (.obj fields))).entries = .ok entries)
    (ho : Override.ofEnvironment PlatformSettings.decoder.shape defaultPrefix environment =
      .ok overrides)
    (hr : ∀ x ∈ originsOf [] overrides, Readable x.raw) :
    Validates fields environment (session.fresh fields environment) overrides entries
      (overlay entries overrides) (originsOf [] overrides) where
  entries_eq := he
  overrides_eq := ho
  merge_eq := merge_of_readable hr
  outcome_eq := by
    rw [fresh_eq h, he, ok_bind, ho, mapError_ok, ok_bind, settingsOf, merge_of_readable hr]
    rfl
  unchanged := by
    intro path source raw hs hn
    have hc : Constructible raw := (forall_readable_iff ho).1 hr path source raw hs
    rw [at?_overlay_of_value (tidy_of_ofEnvironment ho) ((node?_eq_value_iff ho).2 hs)]
    rcases denotes_valueOf hc with ⟨hread, hcollection⟩ | ⟨hstr, -⟩
    · exact absurd hcollection (hn _ hread)
    · rw [hstr]

theorem Validates.expected {outcome : Except LoadError PlatformSettings}
    (h : Validates fields environment outcome overrides entries merged origins) :
    Expected outcome := by
  rw [h.outcome_eq]
  cases PlatformSettings.decoder.read (.map merged) <;> exact trivial

/-- A call that accepts no earlier settings, of which all values can be shown in a report, ends in
settings or in an error that callers are told of, unless the data cannot be written as JSON or the
loader fails on the text of a variable with no error of its format. Then the texts of the variables
that are no lists or mappings are validated as they are. -/
theorem fresh_call_expected (h : Presentable environment defaultPrefix) :
    (Expected (session.fresh fields environment) ↔ (Datum.ofJson (.obj fields)).Writable ∧
      ((∃ conflict, Override.ofEnvironment PlatformSettings.decoder.shape defaultPrefix
          environment = .error conflict) ∨
        ∀ path source raw, SetsPath environment defaultPrefix path source raw →
          Constructible raw)) ∧
    (Expected (session.fresh fields environment) →
      (∃ conflict, Override.ofEnvironment PlatformSettings.decoder.shape defaultPrefix
          environment = .error conflict ∧
        session.fresh fields environment = .error (.conflict conflict)) ∨
        ∃ overrides entries merged origins, Validates fields environment
          (session.fresh fields environment) overrides entries merged origins) := by
  have hfresh : session.fresh fields environment = _ := fresh_eq h
  by_cases hw : (Datum.ofJson (.obj fields)).Writable
  · obtain ⟨entries, he⟩ := entries_of_writable hw
    rw [he, ok_bind] at hfresh
    cases ho : Override.ofEnvironment PlatformSettings.decoder.shape defaultPrefix environment with
    | error conflict =>
      rw [ho] at hfresh
      have hc : session.fresh fields environment = .error (.conflict conflict) := hfresh
      rw [hc]
      exact ⟨iff_of_true trivial ⟨hw, .inl ⟨conflict, rfl⟩⟩, fun _ => .inl ⟨conflict, rfl, rfl⟩⟩
    | ok overrides =>
      rw [← forall_readable_iff ho]
      by_cases hr : ∀ x ∈ originsOf [] overrides, Readable x.raw
      · have hv : Validates fields environment (session.fresh fields environment) overrides _ _ _ :=
          validates h he ho hr
        exact ⟨iff_of_true hv.expected ⟨hw, .inr hr⟩, fun _ => .inr ⟨_, _, _, _, hv⟩⟩
      · obtain ⟨fault, hf⟩ := merge_of_not_readable entries (by simpa using hr)
        have hbad : session.fresh fields environment = .error (.badValue fault) := by
          rw [hfresh, ho, mapError_ok, ok_bind, settingsOf, hf, error_bind]
        simp [hbad, Expected, hr]
  · obtain ⟨fault, he⟩ := entries_of_not_writable hw
    rw [he, error_bind] at hfresh
    simp [hfresh, hw, Expected]

end Loader

def smallFields : Table Json := [
  ("api", .obj [("baseUrl", .str "u")]),
  ("images", .obj [("scenarioFetchParameters", .str "f"), ("sendDataWarehouse", .str "s")])]

/-- A version that is a date as YAML, and a list. -/
def datedVersion : Bindings where
  entries := [("CSM_PLATFORM_API__VERSION", "2020-12-31"),
    ("CSM_PLATFORM_ARGO__WORKFLOWS__ACCESSMODES", "[ReadWriteOnce]")]
  distinct := by decide

theorem raw_datedVersion {source raw : String} (h : datedVersion.get? source = some raw) :
    raw = "2020-12-31" ∨ raw = "[ReadWriteOnce]" := by
  have hmem := Table.mem_of_get?_eq_some h
  simp only [datedVersion, List.mem_cons, Prod.mk.injEq, List.not_mem_nil, or_false] at hmem
  exact hmem.imp And.right And.right

theorem datedVersion_expected : Expected (Session.fresh {} smallFields datedVersion) ∧
    ∃ overrides entries merged origins, Validates smallFields datedVersion
      (Session.fresh {} smallFields datedVersion) overrides entries merged origins ∧
      Datum.at? (.map merged) ["api", "version"] = some (.str "2020-12-31") := by
  have hdate : Yaml.Loader.load "2020-12-31" = .ok (.date 2020 12 31) := by decide +kernel
  have hlist : Yaml.Loader.load "[ReadWriteOnce]" = .ok (.seq [.str "ReadWriteOnce"]) := by
    decide +kernel
  have hp : Presentable datedVersion defaultPrefix := by
    intro path source raw value hs hread hc
    rcases raw_datedVersion hs.1 with rfl | rfl
    · rw [hdate] at hread
      cases hread
      exact hc.elim
    · rw [hlist] at hread
      cases hread
      exact ⟨trivial, trivial⟩
  have hc : ∀ path source raw, SetsPath datedVersion defaultPrefix path source raw →
      Constructible raw := by
    intro path source raw hs fault
    rcases raw_datedVersion hs.1 with rfl | rfl
    · simp [hdate]
    · simp [hlist]
  have hw : (Datum.ofJson (.obj smallFields)).Writable := by
    simp [smallFields, Datum.ofJson, Datum.ofFields, Datum.Writable, Datum.WritableEntries,
      Datum.HasName]
  have hsorted : Override.sorted datedVersion = datedVersion.entries :=
    Override.sorted_eq (.refl _) (by decide)
  have ho : Override.ofEnvironment PlatformSettings.decoder.shape defaultPrefix datedVersion =
      .ok [("api", .nested "CSM_PLATFORM_API__VERSION"
          [("version", .value "CSM_PLATFORM_API__VERSION" "2020-12-31")]),
        ("argo", .nested "CSM_PLATFORM_ARGO__WORKFLOWS__ACCESSMODES"
          [("workflows", .nested "CSM_PLATFORM_ARGO__WORKFLOWS__ACCESSMODES" [("accessModes",
            .value "CSM_PLATFORM_ARGO__WORKFLOWS__ACCESSMODES" "[ReadWriteOnce]")])])] := by
    rw [Override.ofEnvironment_eq, hsorted]
    rfl
  obtain ⟨hiff, hcases⟩ := @fresh_call_expected datedVersion smallFields {} _ hp
  have hexpected := hiff.2 ⟨hw, .inr hc⟩
  refine ⟨hexpected, ?_⟩
  rcases hcases hexpected with ⟨conflict, hconflict, -⟩ | ⟨overrides, entries, merged, origins, hv⟩
  · rw [ho] at hconflict
    cases hconflict
  · refine ⟨overrides, entries, merged, origins, hv, ?_⟩
    refine hv.unchanged _ "CSM_PLATFORM_API__VERSION" _ ((node?_eq_value_iff ho).1 rfl) ?_
    intro value hread
    rw [hdate] at hread
    cases hread
    exact id

/-- A version that would be a date if there were a thirteenth month. -/
def impossibleDate : Bindings where
  entries := [("CSM_PLATFORM_API__VERSION", "2020-13-45")]
  distinct := by decide

theorem fresh_impossibleDate :
    Session.fresh {} smallFields impossibleDate = .error (.badValue .outOfRange) := by
  have hread : Yaml.Loader.load "2020-13-45" = .error (.value .outOfRange) := by decide +kernel
  have hdecode : decodeRaw "2020-13-45" = .error (.badValue .outOfRange) := by
    rw [decodeRaw, hread]
  have hsorted : Override.sorted impossibleDate = impossibleDate.entries :=
    Override.sorted_eq (.refl _) (by decide)
  have ho : Override.ofEnvironment PlatformSettings.decoder.shape defaultPrefix impossibleDate =
      .ok [("api", .nested "CSM_PLATFORM_API__VERSION"
        [("version", .value "CSM_PLATFORM_API__VERSION" "2020-13-45")])] := by
    rw [Override.ofEnvironment_eq, hsorted]
    rfl
  have hp : Presentable impossibleDate defaultPrefix := by
    intro path source raw value hs hvalue
    have hraw : raw = "2020-13-45" := by
      have hmem := Table.mem_of_get?_eq_some hs.1
      simp only [impossibleDate, List.mem_singleton, Prod.mk.injEq] at hmem
      exact hmem.2
    rw [hraw, hread] at hvalue
    cases hvalue
  rw [fresh_eq hp, ho]
  simp only [mapError_ok, ok_bind, settingsOf, merge, hdecode, error_bind]
  rfl

/-- A record with a date for a key. -/
def datedKey : Bindings where
  entries := [("CSM_PLATFORM_API", "\x7b2020-01-01: 1\x7d")]
  distinct := by decide

theorem fresh_datedKey :
    Session.fresh {} smallFields datedKey = .error (.notJson .unsupported) := by
  have hdecode : decodeRaw "\x7b2020-01-01: 1\x7d" = .ok (.map [(.date 2020 1 1, .int 1)]) := by
    decide +kernel
  have hsorted : Override.sorted datedKey = datedKey.entries :=
    Override.sorted_eq (.refl _) (by decide)
  have ho : Override.ofEnvironment PlatformSettings.decoder.shape defaultPrefix datedKey =
      .ok [("api", .value "CSM_PLATFORM_API" "\x7b2020-01-01: 1\x7d")] := by
    rw [Override.ofEnvironment_eq, hsorted]
    rfl
  have hoverlaid : overlaid (.ofJson (.obj smallFields)) datedKey defaultPrefix = .ok
      (Datum.setEntry (Datum.ofFields smallFields) (.str "api") (.map [(.date 2020 1 1, .int 1)]),
        [⟨[.name "api"], "CSM_PLATFORM_API", "\x7b2020-01-01: 1\x7d"⟩]) := by
    rw [overlaid, ho]
    simp only [mapError_ok, ok_bind, merge, hdecode]
    rfl
  rw [Session.fresh, Session.answer_of_attempts (by simp [Session.attempts])]
  simp only [Call.attempt, Source.document, ok_bind, reported, ofDocument, reportFault?, hoverlaid]
  rfl

/-- A date that does not exist, and a key that no report can show, end a call in errors that callers
are not told of. -/
theorem fresh_call_not_always_expected :
    Session.fresh {} smallFields impossibleDate = .error (.badValue .outOfRange) ∧
      ¬ Expected (Session.fresh {} smallFields impossibleDate) ∧
      Session.fresh {} smallFields datedKey = .error (.notJson .unsupported) ∧
      ¬ Expected (Session.fresh {} smallFields datedKey) := by
  refine ⟨fresh_impossibleDate, ?_, fresh_datedKey, ?_⟩
  · rw [fresh_impossibleDate]
    exact id
  · rw [fresh_datedKey]
    exact id

end ScenarioCompiler.Settings
