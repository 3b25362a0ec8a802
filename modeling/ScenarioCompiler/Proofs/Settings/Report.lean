import ScenarioCompiler.Proofs.Datum
import ScenarioCompiler.Proofs.Outcome
import ScenarioCompiler.Settings.Report

namespace ScenarioCompiler

namespace Datum

variable {entries : List (Datum × Datum)} {value : Datum} {name : String} {items : List Datum}

mutual

/-- A value without loops, whose integers have texts, and whose mappings have keys that do. -/
def Reportable : Datum → Prop
  | .null | .bool _ | .float _ | .str _ | .bytes _ | .date .. | .moment _ => True
  | .int n => hasText n = true
  | .seq items | .set items => ReportableItems items
  | .map entries => ReportableEntries entries
  | .loop _ => False

def ReportableItems : List Datum → Prop
  | [] => True
  | item :: rest => Reportable item ∧ ReportableItems rest

def ReportableEntries : List (Datum × Datum) → Prop
  | [] => True
  | (key, value) :: rest => HasName key ∧ Reportable value ∧ ReportableEntries rest

end

theorem reportableItems_iff : ReportableItems items ↔ ∀ item ∈ items, item.Reportable := by
  induction items with
  | nil => simp [ReportableItems]
  | cons item rest ih => rw [ReportableItems, ih, List.forall_mem_cons]

theorem reportable_map : (map entries).Reportable ↔
    ∀ entry ∈ entries, HasName entry.1 ∧ entry.2.Reportable := by
  rw [Reportable]
  induction entries with
  | nil => simp [ReportableEntries]
  | cons entry rest ih => rw [ReportableEntries, ih, List.forall_mem_cons, and_assoc]

mutual

theorem Writable.reportable : ∀ {value : Datum}, value.Writable → value.Reportable
  | .null, _ | .bool _, _ | .float _, _ | .str _, _ => True.intro
  | .int _, h => by
    rw [Writable] at h
    rw [Reportable]
    exact h
  | .seq _, h => reportableItems_of_writable h
  | .map _, h => reportableEntries_of_writable h

theorem reportableItems_of_writable : ∀ {items : List Datum}, WritableItems items →
    ReportableItems items
  | [], _ => True.intro
  | _ :: _, h => ⟨h.1.reportable, reportableItems_of_writable h.2⟩

theorem reportableEntries_of_writable : ∀ {entries : List (Datum × Datum)},
    WritableEntries entries → ReportableEntries entries
  | [], _ => True.intro
  | (_, _) :: _, h => ⟨h.1, h.2.1.reportable, reportableEntries_of_writable h.2.2⟩

end

theorem Reportable.not_isTooLong (h : value.Reportable) : value.isTooLong = false := by
  cases value with
  | int n =>
    rw [Reportable] at h
    rw [isTooLong, h]
    rfl
  | _ => rfl

mutual

/-- A value can be shown if it is reportable. -/
theorem reportFault?_eq_none : ∀ {value : Datum}, value.Reportable → value.reportFault? = none
  | .null, _ | .bool _, _ | .float _, _ | .str _, _ | .bytes _, _ | .date .., _
  | .moment _, _ => rfl
  | .int n, h => by
    rw [Reportable] at h
    rw [reportFault?, if_pos h]
  | .seq items, h => by
    rw [reportFault?]
    exact reportFaultOfItems?_eq_none h
  | .set items, h => by
    have hitems : ∀ item ∈ items, item.Reportable := reportableItems_iff.1 h
    rw [reportFault?, if_neg]
    simpa using fun item hm => (hitems item hm).not_isTooLong
  | .map entries, h => by
    rw [reportFault?]
    exact reportFaultOfEntries?_eq_none h

theorem reportFaultOfItems?_eq_none : ∀ {items : List Datum}, ReportableItems items →
    reportFaultOfItems? items = none
  | [], _ => rfl
  | item :: rest, h => by
    rw [ReportableItems] at h
    rw [reportFaultOfItems?, reportFault?_eq_none h.1, reportFaultOfItems?_eq_none h.2]
    rfl

theorem reportFaultOfEntries?_eq_none : ∀ {entries : List (Datum × Datum)},
    ReportableEntries entries → reportFaultOfEntries? entries = none
  | [], _ => rfl
  | (key, value) :: rest, h => by
    rw [ReportableEntries] at h
    obtain ⟨name, hn⟩ := exists_keyText.2 h.1
    rw [reportFaultOfEntries?, keyFault?, hn, reportFault?_eq_none h.2.1,
      reportFaultOfEntries?_eq_none h.2.2]
    rfl

end

theorem reportable_setEntry (hm : (map entries).Reportable) (hv : value.Reportable) :
    (map (setEntry entries (.str name) value)).Reportable := by
  rw [reportable_map] at hm ⊢
  induction entries with
  | nil => simpa [setEntry, HasName] using hv
  | cons entry rest ih =>
    obtain ⟨hentry, hrest⟩ := List.forall_mem_cons.1 hm
    rw [setEntry]
    split
    · exact List.forall_mem_cons.2 ⟨⟨hentry.1, hv⟩, hrest⟩
    · exact List.forall_mem_cons.2 ⟨hentry, ih hrest⟩

theorem reportable_of_entry? (hm : (map entries).Reportable)
    (he : entry? entries name = some value) : value.Reportable := by
  rw [reportable_map] at hm
  induction entries with
  | nil => cases he
  | cons entry rest ih =>
    obtain ⟨hentry, hrest⟩ := List.forall_mem_cons.1 hm
    rw [entry?_cons] at he
    split at he
    · cases he
      exact hentry.2
    · exact ih hrest he

theorem reportable_getD (h : ReportableItems items) (n : Nat) :
    (items.getD n .null).Reportable := by
  rw [List.getD_eq_getElem?_getD]
  cases hi : items[n]? with
  | none => exact True.intro
  | some item => exact reportableItems_iff.1 h item (List.mem_of_getElem? hi)

end Datum

namespace Settings

open Datum Schema

/-- What a problem is about is reportable if the value that has the problem is. -/
theorem reportable_subject {value : Datum} {path : List PathItem} {cause : Cause}
    (h : value.Reportable) : (subject cause value path).Reportable := by
  induction path generalizing value with
  | nil =>
    rw [subject]
    exact h
  | cons item rest ih =>
    unfold subject
    split
    · exact h
    split
    · -- a mapping leads to one of its keys or values
      split
      · exact h
      · rename_i key inner hf
        obtain ⟨hk, hi⟩ := reportable_map.1 h _ (List.mem_of_find?_eq_some hf)
        split
        · exact hk.writable.reportable
        · exact ih hi
    · split
      · exact ih (reportable_getD h _)
      · exact h
    · split
      · exact ih (reportable_getD h _)
      · exact h
    · exact h

variable {document : Datum} {environment : Bindings} {variablePrefix : String}

theorem reported_eq_ok [Yaml.Loader] {settings : PlatformSettings} :
    reported document environment variablePrefix = .ok settings ↔
      ofDocument document environment variablePrefix = .ok settings :=
  mapError_eq_ok

/-- Where the problems can be reported, nothing else can go wrong. -/
theorem reported_of_reportFault?_eq_none [Yaml.Loader]
    (h : reportFault? document environment variablePrefix = none) :
    reported document environment variablePrefix =
      ofDocument document environment variablePrefix := by
  rw [reported, h]
  cases ofDocument document environment variablePrefix <;> rfl

end Settings

end ScenarioCompiler
