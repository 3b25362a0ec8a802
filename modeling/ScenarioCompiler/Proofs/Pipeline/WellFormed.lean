import ScenarioCompiler.Proofs.Pipeline.Compile
import ScenarioCompiler.Workflow.Lowering

namespace ScenarioCompiler.Pipeline

open DependencyGraph Stage

/-- A list from which a workflow can be made: the names are distinct, they are neither the name of
the root nor that of the entrypoint, and what a container depends on comes before it. -/
structure WellFormed (containers : List Container) : Prop where
  names_nodup : (containers.map (·.name)).Nodup
  root_notMem : rootDependency ∉ containers.map (·.name)
  entrypoint_notMem : Workflow.entrypointName ∉ containers.map (·.name)
  earlier : ∀ before c after, containers = before ++ c :: after → ∀ d ∈ c.dependencies.getD [],
    d = rootDependency ∨ d ∈ before.map (·.name)

variable {input : Input} {linked : List Container}

/-- A name that begins like no stage and like no merged container is not taken. -/
theorem notMem_names_arrange (h : Linked [] input.stages linked) {name : String}
    (hk : ∀ kind : StageKind, kind.baseName.toList ≠ stem name)
    (hm : stem name ≠ "multipleStepsContainer".toList) :
    name ∉ (input.arrange linked).map (·.name) := by
  have hlinked : ∀ c ∈ linked, c.name ≠ name := fun c hc => h.name_ne input.stages_sound hc hk
  intro hn
  obtain ⟨c, hc, he⟩ := List.mem_map.1 hn
  unfold Input.arrange at hc
  split at hc
  · rcases Stack.name_of_mem_stack hc with ⟨x, hx, hname⟩ | ⟨number, hname⟩
    · exact hlinked x hx (hname.symm.trans he)
    · rw [← he, hname, Stack.stem_mergedName] at hm
      exact hm rfl
  · exact hlinked c hc he

theorem wellFormed_arrange (h : Linked [] input.stages linked) :
    WellFormed (input.arrange linked) := by
  have hw := input.wellOrdered_arrange h
  have hroot : ∀ kind : StageKind, kind.baseName.toList ≠ stem rootDependency := by
    intro kind
    cases kind <;> decide +kernel
  have hentry : ∀ kind : StageKind, kind.baseName.toList ≠ stem Workflow.entrypointName := by
    intro kind
    cases kind <;> decide +kernel
  refine ⟨hw.names_nodup, notMem_names_arrange h hroot (by decide),
    notMem_names_arrange h hentry (by decide), ?_⟩
  intro before c after he d hd
  by_cases hr : d = rootDependency
  · exact .inl hr
  · have hwaits := hw.waitsWithin
    rw [he] at hwaits
    exact .inr (by simpa using hwaits.mem_of_split (Container.mem_waitsFor.2 ⟨hd, hr⟩))

/-- Whatever the stages of a run build is well formed, stacked or not, so that no compilation ends
with a dependency that is not valid. -/
theorem compile_wellFormed :
    (∀ (input : Input) (linked : List Container),
      (linkAll input.stages).outcome = .ok linked → WellFormed (input.arrange linked)) ∧
    ∀ (settings : PlatformSettings) (checker : EventHubChecker) (request : RunRequest)
      (csmSimulationId container : String) (dependencies : List String) (reason : String),
      (containers settings checker request csmSimulationId).outcome ≠
        .error (.invalidDependency container dependencies reason) := by
  refine ⟨fun input linked h => wellFormed_arrange (Input.linkAll_eq_ok.1 h), ?_⟩
  intro settings checker request csmSimulationId container dependencies reason h
  exact ofInputs_of_containers_eq_error h

theorem smallRun_wellFormed :
    let input := inputWith smallPlatform none (smallRequest (some true)) "id"
      (smallTemplate (some true))
    ∃ linked, (linkAll input.stages).outcome = .ok linked ∧ linked.length = 7 ∧
      WellFormed (input.arrange linked) ∧ (input.arrange linked).length = 4 := by
  refine ⟨_, rfl, rfl, compile_wellFormed.1 _ _ rfl, ?_⟩
  rfl

end ScenarioCompiler.Pipeline
