import ScenarioCompiler.Proofs.Workflow.JsonText
import ScenarioCompiler.Proofs.Workflow.Names
import ScenarioCompiler.Proofs.Yaml.RoundTrip

namespace ScenarioCompiler.Workflow

open Yaml.Lexer (KeyFits)

theorem keyFits_fixedNames : ∀ name ∈ fixedNames, KeyFits name := by
  have hlength : ∀ name ∈ fixedNames, name.length ≤ 102 := by decide +kernel
  exact fun name hn => Yaml.Lexer.keyFits_of_length_le (hlength name hn)

theorem exists_document (w : Workflow) : ∃ fields, fields ≠ [] ∧ w.document = .obj fields := by
  refine ⟨_, ?_, ApiClass.document_object _ _⟩
  exact List.cons_ne_nil _ _

theorem read_toYaml_eq_ok_iff {w : Workflow}
    (ht : w.spec.activeDeadlineSeconds.natAbs < 10 ^ Json.digitLimit) (datum : Datum) :
    Yaml.read w.toYaml = .ok datum ↔
      (∀ name ∈ w.names, KeyFits name) ∧ datum = Datum.ofJson w.document := by
  have hkeyed : w.document.Keyed (fun _ => True) 8 :=
    document_keyed (fun _ _ => trivial) (fun _ _ => trivial) ht
  have hnesting : 2 * 7 + 2 < Yaml.Writer.width := by decide
  obtain ⟨fields, hf, hd⟩ := exists_document w
  rw [← document_keyed_iff keyFits_fixedNames ht, toYaml]
  rw [hd] at hkeyed ⊢
  exact Yaml.read_write_eq_ok_iff hf hkeyed hnesting datum

/-- The YAML text of a workflow is read back as its document and as nothing else, provided that
each name that shares its line with a value is short enough there with its escapes. With a longer
name it is not read at all. -/
theorem toYaml_lossless_iff (settings : PlatformSettings) (start : RunStart) (timeout : Option Int)
    (alwaysPull : Option Bool) (h : timeout.all Datum.hasText = true) (datum : Datum) :
    Yaml.read (ofStart settings start timeout alwaysPull).toYaml = .ok datum ↔
      (∀ name ∈ (ofStart settings start timeout alwaysPull).names, KeyFits name) ∧
        datum = Datum.ofJson (ofStart settings start timeout alwaysPull).document :=
  read_toYaml_eq_ok_iff (natAbs_deadline_lt h) datum

/-- A run whose labels look like other values, take several lines or need escapes. One name has a
line break, so that it cannot stand in front of its value. -/
def tangledStart : RunStart where
  containers := [{ name := "step", image := "image", runArgs := some ["- a: #b", "", " x\n\ny\t"] }]
  nodeLabel := none
  generateName := some "0x1F"
  csmSimulationId := "null"
  labels := some ⟨[("yes", "1e3"), ("<<", "2020-01-01"), ("a: 'b' # c", "~\x00\u2028"),
    ("", "line\n\n  break \n"), ("? \n-", "😀")], by decide⟩

theorem tangledStart_lossless :
    (some (-(10 ^ 4299)) : Option Int).all Datum.hasText = true ∧
      Yaml.read (ofStart Pipeline.smallPlatform tangledStart (some (-(10 ^ 4299))) none).toYaml =
        .ok (Datum.ofJson
          (ofStart Pipeline.smallPlatform tangledStart (some (-(10 ^ 4299))) none).document) := by
  have h : (some (-(10 ^ 4299)) : Option Int).all Datum.hasText = true := by decide +kernel
  have hnames : ∀ name ∈
      (ofStart Pipeline.smallPlatform tangledStart (some (-(10 ^ 4299))) none).names,
      KeyFits name := by
    decide +kernel
  exact ⟨h, (toYaml_lossless_iff Pipeline.smallPlatform tangledStart _ none h _).2 ⟨hnames, rfl⟩⟩

/-- A run with a label of 103 characters beyond the basic plane. -/
def emojiStart : RunStart where
  containers := [{ name := "step", image := "image" }]
  nodeLabel := none
  generateName := none
  csmSimulationId := "id"
  labels := some ⟨[(String.ofList (List.replicate 103 '😀'), "x")], List.nodup_singleton _⟩

theorem emojiStart_not_lossless : ¬ ∃ datum : Datum,
    Yaml.read (ofStart Pipeline.smallPlatform emojiStart none none).toYaml = .ok datum := by
  have hname : String.ofList (List.replicate 103 '😀') ∈
      (ofStart Pipeline.smallPlatform emojiStart none none).names :=
    List.mem_append_left _ (List.mem_singleton_self _)
  have hlength : (String.ofList (List.replicate 103 '😀')).length = 103 := by
    rw [String.length_ofList, List.length_replicate]
  have hlong : ¬ KeyFits (String.ofList (List.replicate 103 '😀')) := by
    refine Yaml.Lexer.not_keyFits_of_beyond (fun ch hch => ?_) ?_ ?_
    · rw [String.toList_ofList] at hch
      rw [List.eq_of_mem_replicate hch]
      decide
    · exact Nat.le_of_eq hlength.symm
    · rw [hlength]
      decide
  rintro ⟨datum, hok⟩
  have hfits := ((read_toYaml_eq_ok_iff (natAbs_deadline_lt rfl) datum).1 hok).1
  exact hlong (hfits _ hname)

end ScenarioCompiler.Workflow
