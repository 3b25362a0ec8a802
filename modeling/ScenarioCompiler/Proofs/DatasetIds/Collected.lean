import Mathlib.Data.List.Nodup
import ScenarioCompiler.Proofs.DatasetIds
import ScenarioCompiler.Proofs.Pipeline.Compile

namespace ScenarioCompiler.DatasetIds

variable {solution : Solution} {scenario : Scenario} {template : RunTemplate}
  {items : List (String × List String)} {parameter : SolutionParameter} {id : String}

/-- When the values of a scenario are read, the items are the ids that each value names. -/
theorem mem_ofScenario (h : ofScenario scenario solution = .ok items)
    {item : String × List String} :
    item ∈ items ↔ ∃ value ∈ scenario.parametersValues,
      item.1 = value.parameterId ∧ Names solution value item.2 := by
  have hp := ofScenario_eq_ok.1 h
  constructor
  · intro hm
    exact names_of_mem_perParameter (hp ▸ hm)
  · rintro ⟨value, hv, hid, hn⟩
    have hm := mem_perParameter (by rw [hp]) hv hn
    rwa [hp, ← hid] at hm

theorem readable_of_ofScenario (h : ofScenario scenario solution = .ok items) :
    ∀ value ∈ scenario.parametersValues, Readable solution value :=
  perParameter_snd_eq_none.1 (by rw [ofScenario_eq_ok.1 h])

/-- Of parameters with distinct ids each one is the last of its id. -/
theorem isLast_of_nodup (hd : (solution.parameters.map (·.id)).Nodup)
    (hm : parameter ∈ solution.parameters) :
    IsLast (·.id = parameter.id) solution.parameters parameter := by
  obtain ⟨other, hl⟩ := exists_isLast (p := (·.id = parameter.id)) hm rfl
  rwa [List.inj_on_of_nodup_map hd hl.mem hm hl.prop] at hl

theorem Collects.ofDatasets_id (h : Collects solution template parameter)
    (hd : (solution.parameters.map (·.id)).Nodup) : OfDatasets solution parameter.id :=
  ⟨parameter, isLast_of_nodup hd h.mem, h.ofDatasets⟩

/-- A parameter is in one of the groups of a solution that a run template uses. -/
def Grouped (solution : Solution) (template : RunTemplate) (parameterId : String) : Prop :=
  ∃ group ∈ solution.parameterGroups, group.id ∈ template.parameterGroups.getD [] ∧
    parameterId ∈ group.parameters

theorem mem_groupedParameters : id ∈ groupedParameters solution (template.parameterGroups.getD []) ↔
    Grouped solution template id := by
  simp [groupedParameters, Grouped, and_assoc]

/-- The ids that the grouped parameters are found to name, one by one, are those that reading all
values of the scenario finds for them. -/
theorem mentions_iff (hd : (solution.parameters.map (·.id)).Nodup)
    (hi : ofScenario scenario solution = .ok items) :
    (∃ parameter, Collects solution template parameter ∧ Mentions scenario parameter.id id) ↔
      ∃ item ∈ items, Grouped solution template item.1 ∧ id ∈ item.2 := by
  constructor
  · rintro ⟨parameter, hc, value, hv, hid, hne, ids, hp, hmem⟩
    have hn : Names solution value ids := ⟨hid ▸ hc.ofDatasets_id hd, hne, hp⟩
    exact ⟨(value.parameterId, ids), (mem_ofScenario hi).2 ⟨value, hv, rfl, hn⟩,
      mem_groupedParameters.1 (hid ▸ hc.grouped), hmem⟩
  · rintro ⟨⟨parameterId, ids⟩, hm, hg, hmem⟩
    obtain ⟨value, hv, rfl, ⟨parameter, hl, hc⟩, hne, hp⟩ := (mem_ofScenario hi).1 hm
    have hid : parameter.id = value.parameterId := hl.prop
    exact ⟨parameter, ⟨hl.mem, hid ▸ mem_groupedParameters.2 hg, hc⟩,
      value, hv, hid.symm, hne, ids, hp, hmem⟩

/-- When the values of a scenario can be read and no id of a parameter is used twice, the datasets
to look up are found, each one once: first those of the scenario, and then those that its values
name for the parameters in groups of the run template. -/
theorem collect_agrees (hd : (solution.parameters.map (·.id)).Nodup)
    (hi : ofScenario scenario solution = .ok items) (template : RunTemplate) :
    ∃ collected, collect scenario solution template = .ok collected ∧ collected.Nodup ∧
      distinct scenario.datasetList <+: collected ∧
      ∀ id, id ∈ collected ↔ id ∈ scenario.datasetList ∨
        ∃ item ∈ items, Grouped solution template item.1 ∧ id ∈ item.2 := by
  have hparameters : ∀ parameter, Collects solution template parameter →
      ∃ ids, ofParameter scenario parameter.id = .ok ids := by
    intro parameter hc
    refine exists_ofParameter fun value hv hid hne => ?_
    exact (readable_of_ofScenario hi value hv).parses (hid ▸ hc.ofDatasets_id hd) hne
  obtain ⟨collected, hcollected⟩ := exists_collect hparameters
  obtain ⟨named, rfl, hnamed⟩ := collect_eq_ok hcollected
  refine ⟨_, hcollected, nodup_distinct _, ?_, fun id => ?_⟩
  · rw [distinct_append]
    exact List.prefix_append _ _
  · rw [mem_distinct, List.mem_append, hnamed, mentions_iff hd hi]

/-! ### A scenario with several values for a parameter -/

/-- The groups "g" name the first two parameters and an unknown one; no group names the third. -/
def groupedSolution : Solution :=
  { (Pipeline.smallRequest none).solution with
    parameters := [⟨"first", some Placeholder.datasetIdToken, none⟩,
      ⟨"second", some Placeholder.datasetIdToken, none⟩,
      ⟨"third", some Placeholder.datasetIdToken, none⟩, ⟨"text", none, none⟩]
    parameterGroups := [⟨"g", ["second", "unknown"]⟩, ⟨"h", ["third"]⟩, ⟨"g", ["first", "text"]⟩] }

def groupedTemplate : RunTemplate :=
  { Pipeline.smallTemplate none with parameterGroups := some ["g", "g", "missing"] }

/-- Two values for the first parameter, an empty one for the second, and a text that is no list. -/
def repeatedScenario : Scenario :=
  { (Pipeline.smallRequest none).scenario with
    datasetList := ["d-1", "d-2", "d-1"]
    parametersValues := [⟨"third", "d-6", none⟩, ⟨"first", "[d-2, d-3]", none⟩,
      ⟨"second", "", none⟩, ⟨"text", "[d-5", none⟩, ⟨"first", "d-4", none⟩] }

/-- The dataset of the third parameter is read, but it is not one to look up. -/
theorem repeatedScenario_agrees :
    (groupedSolution.parameters.map (·.id)).Nodup ∧
      ofScenario repeatedScenario groupedSolution =
        .ok [("third", ["d-6"]), ("first", ["d-2", "d-3"]), ("first", ["d-4"])] ∧
      ∃ collected, collect repeatedScenario groupedSolution groupedTemplate = .ok collected ∧
        collected.Nodup ∧ ["d-1", "d-2"] <+: collected ∧ "d-4" ∈ collected ∧ "d-6" ∉ collected := by
  have hd : (groupedSolution.parameters.map (·.id)).Nodup := by decide
  have hi : ofScenario repeatedScenario groupedSolution =
      .ok [("third", ["d-6"]), ("first", ["d-2", "d-3"]), ("first", ["d-4"])] := by
    decide +kernel
  obtain ⟨collected, hc, hnodup, hprefix, hmem⟩ := collect_agrees hd hi groupedTemplate
  refine ⟨hd, hi, collected, hc, hnodup, hprefix, (hmem _).2 (.inr ?_), fun h => ?_⟩
  · exact ⟨("first", ["d-4"]), by simp, ⟨⟨"g", ["first", "text"]⟩, by decide⟩, by simp⟩
  · have hitems := ((hmem _).1 h).resolve_left (by decide)
    simp [Grouped, groupedSolution, groupedTemplate] at hitems

end ScenarioCompiler.DatasetIds
