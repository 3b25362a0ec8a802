import ScenarioCompiler.Proofs.Environment.Configured
import ScenarioCompiler.Proofs.Step.Variables
import ScenarioCompiler.Step.Warehouse

namespace ScenarioCompiler

open Environment EventHub

namespace SolutionStep

theorem mode_injective {first second : SolutionStep} (h : first.mode = second.mode) :
    first = second := by
  cases first <;> cases second <;> first | rfl | exact absurd h (by decide)

theorem containerName_injective {first second : SolutionStep}
    (h : first.containerName = second.containerName) : first = second := by
  cases first <;> cases second <;> first | rfl | exact absurd h (by decide)

/-- A mode can be read back from a list of modes between commas. -/
theorem comma_notMem_mode (step : SolutionStep) : ',' ∉ step.mode.toList := by
  cases step <;> decide

end SolutionStep

namespace Step

variable {run : RunContext} {checker : EventHubChecker} {solution : Solution}
  {template : RunTemplate} {templateId : String} {step : SolutionStep}
  {dependencies : Option (List String)} {sizing : Option ResourceSizing} {c : Container}
  {content : WarehouseContent} {f : Failure}

/-- What a container that runs a step looks like from outside; its mode is the one of the step. -/
theorem runSolution_eq_ok
    (h : (runSolution run checker solution templateId step dependencies sizing).outcome = .ok c) :
    c.name = step.containerName ∧ c.dependencies = dependencies ∧ c.solutionContainer = true ∧
      c.mode = some step.mode := by
  obtain ⟨template, common, hub, -, -, hh, rfl⟩ := runSolution_ok_iff.1 h
  refine ⟨rfl, rfl, rfl, ?_⟩
  -- none of the variables that are set after the mode is the mode
  have hsource : containerModeVariable ∉
      Table.names (sourceVariables run solution template templateId step) :=
    fun hn => mode_notMem_sourceNames step (names_sourceVariables.subset hn)
  have hsimulation : containerModeVariable ∉ Table.names (simulationVariables template) :=
    fun hn => absurd (names_simulationVariables hn) (by decide)
  have hhub : containerModeVariable ∉ Table.names hub :=
    fun hn => absurd (names_environment hh hn) (by decide)
  change Table.get? (Table.putAll common.entries _) containerModeVariable = _
  rw [Table.putAll_append, Table.get?_putAll_of_notMem hsource, Table.putAll_append,
    Table.get?_putAll_of_notMem hsimulation, Table.putAll_append,
    Table.get?_putAll_of_notMem hhub]
  change Table.get? (Table.put _ containerModeVariable step.mode) containerModeVariable = _
  rw [Table.get?_put, if_pos rfl]

theorem template_eq_error (h : solution.template templateId = .error f) :
    ∃ solutionId, f = .unknownRunTemplate templateId solutionId := by
  unfold Solution.template at h
  split at h
  · simp at h
  · exact ⟨_, (Except.error.inj h).symm⟩

theorem exists_runSolution_eq_ok (ht : solution.template templateId = .ok template) :
    (∃ c, (runSolution run checker solution templateId step dependencies sizing).outcome = .ok c) ↔
      BaseAuthentication run.settings ∧ BusConfigured run.settings := by
  rw [← exists_common_default_eq_ok run.ids,
    ← exists_environment_eq_ok run.organization run.workspace checker]
  constructor
  · rintro ⟨c, h⟩
    obtain ⟨_, common, hub, -, hc, hh, -⟩ := runSolution_ok_iff.1 h
    exact ⟨⟨common, hc⟩, hub, hh⟩
  · rintro ⟨⟨common, hc⟩, hub, hh⟩
    exact ⟨_, runSolution_ok_iff.2 ⟨template, common, hub, ht, hc, hh, rfl⟩⟩

theorem runSolution_eq_error (ht : solution.template templateId = .ok template)
    (h : (runSolution run checker solution templateId step dependencies sizing).outcome =
      .error f) : f.AboutCredentials := by
  simp only [runSolution, Traced.outcome_bind, Traced.outcome_liftM, Traced.outcome_pure,
    bind_eq_error, ht, reduceCtorEq, false_or, and_false, exists_false, or_false] at h
  obtain ⟨_, -, h | ⟨_, -, h⟩⟩ := h
  · exact common_eq_error h
  · exact environment_eq_error h

theorem sendToWarehouse_eq_ok (h : sendToWarehouse run content dependencies = .ok c) :
    c.name = warehouseName ∧ c.dependencies = dependencies ∧ c.solutionContainer = false := by
  simp only [sendToWarehouse, bind_eq_ok, pure_eq_ok] at h
  obtain ⟨_, -, rfl⟩ := h
  exact ⟨rfl, rfl, rfl⟩

theorem exists_sendToWarehouse_eq_ok :
    (∃ c, sendToWarehouse run content dependencies = .ok c) ↔ BaseAuthentication run.settings := by
  rw [← exists_common_default_eq_ok run.ids]
  simp only [sendToWarehouse, bind_eq_ok, pure_eq_ok]
  constructor
  · rintro ⟨_, common, hc, -⟩
    exact ⟨common, hc⟩
  · rintro ⟨common, hc⟩
    exact ⟨_, common, hc, rfl⟩

theorem sendToWarehouse_eq_error (h : sendToWarehouse run content dependencies = .error f) :
    f.AboutCredentials := by
  simp only [sendToWarehouse, bind_eq_error, pure_ne_error, and_false, exists_false, or_false] at h
  exact common_eq_error h

end Step

end ScenarioCompiler
