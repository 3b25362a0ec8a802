import ScenarioCompiler.CommandLine.Run
import ScenarioCompiler.Proofs.Outcome

namespace ScenarioCompiler.CommandLine

variable {command : Command} {settings : PlatformSettings} {request : RunRequest}
  {freshId : String} {start : RunStart} {template : RunTemplate} {failure : Failure}

theorem compiled_eq_ok : compiled command settings request freshId = .ok (start, template) ↔
    (Pipeline.start settings (checkerOf command.assumeControlPlane) request freshId).outcome =
        .ok start ∧
      request.solution.template request.scenario.runTemplateId = .ok template := by
  simp only [compiled, bind_eq_ok, pure_eq_ok, Prod.mk.injEq]
  constructor
  · rintro ⟨_, hs, _, ht, rfl, rfl⟩
    exact ⟨hs, ht⟩
  · rintro ⟨hs, ht⟩
    exact ⟨start, hs, template, ht, rfl, rfl⟩

/-- What is compiled is written if that is possible. -/
theorem compile_of_ok (h : compiled command settings request freshId = .ok (start, template)) :
    compile command settings request freshId =
      if writable command.target template then
        .ok (command.format.write (documentOf command.target settings request template start))
      else .error (.crashed (.yamlValue .tooManyDigits)) := by
  rw [compile, h]
  rfl

theorem compile_of_error (h : compiled command settings request freshId = .error failure) :
    compile command settings request freshId = .error (.failed failure) := by
  rw [compile, h]
  rfl

end ScenarioCompiler.CommandLine
