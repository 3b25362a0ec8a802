import ScenarioCompiler.Proofs.CommandLine.Compile
import ScenarioCompiler.Proofs.Container.Interchange
import ScenarioCompiler.Proofs.Pipeline.Compile

namespace ScenarioCompiler.CommandLine

variable {command : Command} {settings : PlatformSettings} {request : RunRequest}
  {freshId output : String}

/-- The containers that a command prints, together with the run template. -/
theorem exists_start_of_pipeline
    (h : compile { command with target := .pipeline } settings request freshId = .ok output) :
    ∃ start template, compiled command settings request freshId = .ok (start, template) ∧
      output = command.format.write start.document := by
  cases hc : compiled { command with target := .pipeline } settings request freshId with
  | error f =>
    rw [compile_of_error hc] at h
    cases h
  | ok result =>
    obtain ⟨start, template⟩ := result
    rw [compile_of_ok hc] at h
    cases h
    exact ⟨start, template, hc, rfl⟩

/-- The containers that are printed for a run are a document that is read back as they are, and
the workflow of the run is what the containers that are read back are lowered to. The texts in them
consist of characters, so none holds a surrogate without a partner. -/
theorem pipeline_is_interchange :
    (∀ (start : RunStart), RunStart.decoder.read (.ofJson start.document) = .ok start ∧
      ∀ indent, Json.read (Json.write indent start.document) = some start.document) ∧
    ∀ (command : Command) (settings : PlatformSettings) (request : RunRequest)
      (freshId output : String),
      compile { command with target := .pipeline } settings request freshId = .ok output →
      ∃ document start template, output = command.format.write document ∧
        (command.format = .json → Json.read output = some document) ∧
        RunStart.decoder.read (.ofJson document) = .ok start ∧
        request.solution.template request.scenario.runTemplateId = .ok template ∧
        ∀ format, template.executionTimeout.all Datum.hasText →
          compile { command with target := .workflow, format } settings request freshId =
            .ok (format.write (Workflow.ofStart settings start template.executionTimeout
              request.solution.alwaysPull).document) := by
  refine ⟨fun start => ⟨start.decoder_document, Json.read_write start.document_plain⟩, ?_⟩
  intro command settings request freshId output h
  obtain ⟨start, template, hc, rfl⟩ := exists_start_of_pipeline h
  refine ⟨start.document, start, template, rfl, ?_, start.decoder_document,
    (compiled_eq_ok.1 hc).2, ?_⟩
  · intro hf
    rw [hf]
    exact Json.read_write start.document_plain _
  · intro format ht
    have hw : compiled { command with target := .workflow, format } settings request freshId =
        .ok (start, template) := hc
    rw [compile_of_ok hw]
    exact if_pos ht

/-- A command that prints containers as JSON. -/
def pipelineCommand : Command := ⟨.pipeline, "request", "platform", .json, false⟩

theorem smallRun_is_interchange : ∃ output document start,
    compile pipelineCommand Pipeline.smallPlatform (Pipeline.smallRequest none) "id" =
      .ok output ∧
    Json.read output = some document ∧ RunStart.decoder.read (.ofJson document) = .ok start ∧
    compile { pipelineCommand with target := .workflow, format := .yaml } Pipeline.smallPlatform
        (Pipeline.smallRequest none) "id" =
      .ok (Format.yaml.write
        (Workflow.ofStart Pipeline.smallPlatform start none none).document) := by
  have hs : (Pipeline.start Pipeline.smallPlatform none (Pipeline.smallRequest none)
      "id").outcome = .ok _ := rfl
  have hc : compiled pipelineCommand Pipeline.smallPlatform (Pipeline.smallRequest none) "id" =
      .ok (_, Pipeline.smallTemplate none) := compiled_eq_ok.2 ⟨hs, rfl⟩
  have h := (compile_of_ok hc).trans (if_pos rfl)
  obtain ⟨document, start, template, -, hread, hdecode, ht, hcompile⟩ :=
    pipeline_is_interchange.2 pipelineCommand _ _ _ _ h
  cases ht
  exact ⟨_, document, start, h, hread rfl, hdecode, hcompile .yaml rfl⟩

end ScenarioCompiler.CommandLine
