import ScenarioCompiler.Proofs.Settings.Overlay
import ScenarioCompiler.Proofs.Settings.Report
import ScenarioCompiler.Proofs.Table

namespace ScenarioCompiler

namespace Datum

variable {fields : List (String × Json)}

theorem ofItems_eq_map (documents : List Json) : ofItems documents = documents.map ofJson := by
  induction documents with
  | nil => rfl
  | cons document rest ih => rw [ofItems, ih, List.map_cons]

theorem ofFields_eq_map (fields : List (String × Json)) :
    ofFields fields = fields.map fun f => (str f.1, ofJson f.2) := by
  induction fields with
  | nil => rfl
  | cons field rest ih => rw [ofFields, ih, List.map_cons]

theorem writable_ofJson_arr {documents : List Json} :
    (ofJson (.arr documents)).Writable ↔ ∀ document ∈ documents, (ofJson document).Writable := by
  rw [ofJson, writable_seq, ofItems_eq_map, List.forall_mem_map]

theorem writable_ofJson_obj :
    (ofJson (.obj fields)).Writable ↔ ∀ field ∈ fields, (ofJson field.2).Writable := by
  rw [ofJson, writable_map, ofFields_eq_map, List.forall_mem_map]
  simp [HasName]

theorem writable_ofJson_int {n : Int} {json : Json} (h : (int n).toJson = .ok json) :
    (ofJson json).Writable := by
  have hn : (int n).Writable := (exists_toJson (int n)).1 ⟨json, h⟩
  rw [Writable] at hn
  rw [toJson, if_pos hn, pure_eq_ok] at h
  rw [← h, ofJson, Writable]
  exact hn

mutual

/-- What a value becomes when it is written as JSON can be written again. -/
theorem writable_ofJson : ∀ (value : Datum) {json : Json}, value.toJson = .ok json →
    (ofJson json).Writable
  | .null | .bool _ | .float _ | .str _ => fun h => by
    cases h
    exact True.intro
  | .int _ => writable_ofJson_int
  | .bytes _ | .date .. | .moment _ | .set _ | .loop _ => fun h => (nomatch h)
  | .seq items => fun h => by
    simp only [toJson, bind_eq_ok, pure_eq_ok] at h
    obtain ⟨documents, hd, rfl⟩ := h
    exact writable_ofJson_arr.2 (writable_of_toItems hd)
  | .map entries => fun h => by
    simp only [toJson, bind_eq_ok, pure_eq_ok] at h
    obtain ⟨fields, hf, rfl⟩ := h
    exact writable_ofJson_obj.2 (writable_of_toFields (by simp) hf)

theorem writable_of_toItems : ∀ {items : List Datum} {documents : List Json},
    toItems items = .ok documents → ∀ document ∈ documents, (ofJson document).Writable
  | [], _, h => by
    cases h
    simp
  | item :: rest, documents, h => by
    simp only [toItems, bind_eq_ok, pure_eq_ok] at h
    obtain ⟨json, hj, others, ho, rfl⟩ := h
    exact List.forall_mem_cons.2 ⟨writable_ofJson _ hj, writable_of_toItems ho⟩

theorem writable_of_toFields : ∀ {entries : List (Datum × Datum)}
    {fields result : List (String × Json)}, (∀ field ∈ fields, (ofJson field.2).Writable) →
    toFields entries fields = .ok result → ∀ field ∈ result, (ofJson field.2).Writable
  | [], fields, _, hf, h => by
    cases h
    exact hf
  | (key, value) :: rest, fields, result, hf, h => by
    simp only [toFields, bind_eq_ok] at h
    obtain ⟨name, -, json, hj, h⟩ := h
    refine writable_of_toFields (fun field hm => ?_) h
    rcases Table.mem_put hm with rfl | hm
    · exact writable_ofJson _ hj
    · exact hf field hm

end

end Datum

namespace Settings

open Datum Schema

variable {document value : Datum} {environment : Bindings} {variablePrefix name : String}
  {path : List PathItem} {settings : List (Datum × Datum)}
  {overrides : List (String × Override)} {fields : List (String × Json)} {error : LoadError}

theorem reportable_entriesOf (h : (map settings).Reportable) :
    (map (entriesOf (Datum.entry? settings name))).Reportable := by
  cases he : entry? settings name with
  | none => exact True.intro
  | some value =>
    have hv := reportable_of_entry? h he
    cases value <;> first | exact hv | exact True.intro

/-- Overrides with reportable values keep settings reportable. -/
theorem reportable_overlay [Yaml.Loader] (hm : (map settings).Reportable)
    (h : ∀ x ∈ originsOf path overrides, (valueOf x.raw).Reportable) :
    (map (overlay settings overrides)).Reportable := by
  induction path, overrides using originsOf.induct generalizing settings with
  | case1 =>
    rw [overlay]
    exact hm
  | case2 path name owner entries rest ih₁ ih₂ =>
    simp only [originsOf, List.forall_mem_append] at h
    rw [overlay]
    exact ih₂ (reportable_setEntry hm (ih₁ (reportable_entriesOf hm) h.1)) h.2
  | case3 path name source raw rest ih =>
    simp only [originsOf, List.forall_mem_cons] at h
    rw [overlay]
    exact ih (reportable_setEntry hm h.1) h.2

/-! ### Settings that are loaded or known to be invalid -/

/-- The document is void or a mapping of what JSON has. -/
def IsTable (document : Datum) : Prop :=
  document.isVoid = true ∨ ∃ entries, document = .map entries ∧ document.Writable

/-- A document that is a table, and an environment whose overrides set what a report can show. -/
structure Orderly [Yaml.Loader] (document : Datum) (environment : Bindings)
    (variablePrefix : String) : Prop where
  document : IsTable document
  overrides : ∀ overrides, Override.ofEnvironment PlatformSettings.decoder.shape variablePrefix
    environment = .ok overrides → ∀ x ∈ originsOf [] overrides,
      ∃ value, decodeRaw x.raw = .ok value ∧ value.Reportable

theorem exists_entries_of_toJson (h : value.toJson = .ok (.obj fields)) :
    ∃ entries, value = .map entries := by
  cases value with
  | map entries => exact ⟨entries, rfl⟩
  | int n =>
    rw [toJson] at h
    split at h
    · cases h
    · cases h
  | seq items =>
    simp only [toJson, bind_eq_ok, pure_eq_ok] at h
    obtain ⟨_, -, h⟩ := h
    cases h
  | _ => cases h

/-- What is no table cannot be overlaid, whatever the environment. -/
theorem overlaid_of_not_isTable [Yaml.Loader] (h : ¬ IsTable document) :
    overlaid document environment variablePrefix = .error .notMapping ∨
      ∃ fault, overlaid document environment variablePrefix = .error (.notJson fault) := by
  rw [IsTable, not_or] at h
  rw [overlaid, if_neg h.1]
  cases hj : document.toJson with
  | error fault => exact .inr ⟨fault, rfl⟩
  | ok json =>
    left
    cases json with
    | obj fields =>
      obtain ⟨entries, rfl⟩ := exists_entries_of_toJson hj
      exact absurd ⟨entries, rfl, (exists_toJson _).1 ⟨_, hj⟩⟩ h.2
    | _ => rfl

theorem writable_section (h : (ofJson (.obj fields)).Writable) :
    ∃ found, platformSection (.obj fields) = .ok found ∧ (map (ofFields found)).Writable := by
  have hfields : (map (ofFields fields)).Writable := h
  unfold platformSection
  dsimp only
  split
  · rename_i csm hc
    have hcsm := writable_ofJson_obj.1 h _ (Table.mem_of_get?_eq_some hc)
    split
    · rename_i platform hp
      exact ⟨platform, rfl, writable_ofJson_obj.1 hcsm _ (Table.mem_of_get?_eq_some hp)⟩
    · exact ⟨fields, rfl, hfields⟩
  · exact ⟨fields, rfl, hfields⟩

/-- A table has a section for the platform. -/
theorem IsTable.exists_section (h : IsTable document) :
    ∃ json found, (if document.isVoid then .ok (.obj []) else document.toJson) = .ok json ∧
      platformSection json = .ok found ∧ (map (ofFields found)).Writable := by
  rcases h with hv | ⟨entries, rfl, hw⟩
  · -- a void document counts as an empty mapping, whatever it is
    rw [if_pos hv]
    exact ⟨.obj [], [], rfl, rfl, True.intro⟩
  · split
    · exact ⟨.obj [], [], rfl, rfl, True.intro⟩
    · obtain ⟨json, hj⟩ := (exists_toJson (map entries)).2 hw
      have hjson := writable_ofJson _ hj
      simp only [toJson, bind_eq_ok, pure_eq_ok] at hj
      obtain ⟨fields, hf, rfl⟩ := hj
      obtain ⟨found, hfound, hsection⟩ := writable_section hjson
      exact ⟨_, found, by simp [toJson, hf, ok_bind, pure, Except.pure], hfound, hsection⟩

/-- An orderly document is overlaid with what can be shown, unless variables are in conflict. -/
theorem Orderly.overlaid [Yaml.Loader] (h : Orderly document environment variablePrefix) :
    (∃ conflict, Settings.overlaid document environment variablePrefix =
      .error (.conflict conflict)) ∨
    ∃ entries origins, Settings.overlaid document environment variablePrefix =
      .ok (entries, origins) ∧ (map entries).Reportable := by
  obtain ⟨json, found, hj, hs, hw⟩ := h.document.exists_section
  simp only [Settings.overlaid, hj, mapError_ok, ok_bind, hs]
  cases ho : Override.ofEnvironment PlatformSettings.decoder.shape variablePrefix environment with
  | error conflict => exact .inl ⟨conflict, rfl⟩
  | ok overrides =>
    have hvalues := h.overrides overrides ho
    have hr : ∀ x ∈ originsOf [] overrides, Readable x.raw := fun x hx =>
      (hvalues x hx).imp fun _ h => h.1
    have hv : ∀ x ∈ originsOf [] overrides, (valueOf x.raw).Reportable := by
      intro x hx
      obtain ⟨value, hd, hv⟩ := hvalues x hx
      rw [valueOf, hd]
      exact hv
    exact .inr ⟨_, _, merge_of_readable hr, reportable_overlay hw.reportable hv⟩

/-- The problems of an orderly document can be reported. -/
theorem Orderly.reportFault?_eq_none [Yaml.Loader]
    (h : Orderly document environment variablePrefix) :
    Settings.reportFault? document environment variablePrefix = none := by
  unfold Settings.reportFault?
  rcases h.overlaid with ⟨_, ho⟩ | ⟨entries, _, ho, hw⟩
  · rw [ho]
  · rw [ho]
    exact List.findSome?_eq_none_iff.2 fun _ _ => Datum.reportFault?_eq_none (reportable_subject hw)

/-- An orderly document gives settings, or it is known why it does not. -/
theorem Orderly.ofDocument_eq_error [Yaml.Loader]
    (h : Orderly document environment variablePrefix)
    (he : ofDocument document environment variablePrefix = .error error) :
    (∃ conflict, error = .conflict conflict) ∨ ∃ problems, error = .invalid problems := by
  rw [ofDocument, bind_eq_error] at he
  rcases he with ho | ⟨⟨entries, origins⟩, -, hread⟩
  · rcases h.overlaid with ⟨conflict, hc⟩ | ⟨_, _, hk, -⟩
    · rw [hc] at ho
      cases ho
      exact .inl ⟨conflict, rfl⟩
    · rw [hk] at ho
      cases ho
  · cases hp : PlatformSettings.decoder.read (.map entries) with
    | ok _ => simp [hp, mapError_ok] at hread
    | error problems =>
      simp only [hp, mapError_error, Except.error.injEq] at hread
      exact .inr ⟨_, hread.symm⟩

end Settings

end ScenarioCompiler
