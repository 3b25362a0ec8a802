import ScenarioCompiler.Datum
import ScenarioCompiler.Proofs.Pipeline.Compile
import ScenarioCompiler.Proofs.Workflow.Keyed
import ScenarioCompiler.Workflow.Lowering

namespace ScenarioCompiler.Workflow

variable {settings : PlatformSettings} {start : RunStart} {timeout : Option Int}
  {alwaysPull : Option Bool}

theorem hasText_iff {n : Int} : Datum.hasText n = true ↔ n.natAbs < 10 ^ Json.digitLimit := by
  have hp (k : Nat) : powerOfTen k = 10 ^ k := rfl
  rw [Datum.hasText, decide_eq_true_eq, hp, Json.digitLimit]

theorem hasText_defaultTimeout : Datum.hasText defaultTimeout = true := by decide +kernel

theorem getD_of_all {p : Int → Bool} {n : Int} (hn : p n = true) (h : timeout.all p = true) :
    p (timeout.getD n) = true := by
  cases timeout with
  | none => exact hn
  | some k => exact h

/-- The default timeout has a text, so only a given one may lack it. -/
theorem natAbs_deadline_lt (h : timeout.all Datum.hasText = true) :
    (ofStart settings start timeout alwaysPull).spec.activeDeadlineSeconds.natAbs <
      10 ^ Json.digitLimit := by
  have hd : (ofStart settings start timeout alwaysPull).spec.activeDeadlineSeconds =
      timeout.getD defaultTimeout := rfl
  rw [hd, ← hasText_iff]
  exact getD_of_all hasText_defaultTimeout h

/-- Whatever is lowered, the JSON text of the workflow is read back as its document, with any
indentation. Its texts consist of characters, so none of them holds a surrogate without a partner,
which the reader would not give back. -/
theorem toJson_lossless (settings : PlatformSettings) (start : RunStart) (timeout : Option Int)
    (alwaysPull : Option Bool) (h : timeout.all Datum.hasText = true) :
    (∀ indent, Json.read ((ofStart settings start timeout alwaysPull).toJson indent) =
        some (ofStart settings start timeout alwaysPull).document) ∧
      ∀ indent other, Json.read ((ofStart settings start timeout alwaysPull).toJson indent) =
        Json.read ((ofStart settings start timeout alwaysPull).toJson other) := by
  have hplain : (ofStart settings start timeout alwaysPull).document.Plain :=
    (document_keyed (p := fun _ => True) (fun _ _ => trivial) (fun _ _ => trivial)
      (natAbs_deadline_lt h)).1
  have hread (indent : Option Nat) := Json.read_write hplain indent
  exact ⟨hread, fun indent other => (hread indent).trans (hread other).symm⟩

/-- A run with a label that needs escapes, and one that consists of one character beyond the basic
plane. -/
def labelledStart : RunStart where
  containers := [{ name := "step", image := "image", runArgs := some [] }]
  nodeLabel := none
  generateName := none
  csmSimulationId := "id"
  labels := some ⟨[("a\"\\\u2028", "\x00\n"), ("😀", "\x7f")], by decide⟩

theorem labelledStart_lossless :
    (some (10 ^ 4299 : Int)).all Datum.hasText = true ∧
      Json.read ((ofStart Pipeline.smallPlatform labelledStart (some (10 ^ 4299)) none).toJson
          (some 2)) =
        some (ofStart Pipeline.smallPlatform labelledStart (some (10 ^ 4299)) none).document := by
  have h : (some (10 ^ 4299 : Int)).all Datum.hasText = true := by decide +kernel
  exact ⟨h, (toJson_lossless Pipeline.smallPlatform labelledStart _ none h).1 (some 2)⟩

end ScenarioCompiler.Workflow
