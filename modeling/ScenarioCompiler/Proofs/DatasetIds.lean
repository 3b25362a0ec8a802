import ScenarioCompiler.DatasetIds
import ScenarioCompiler.Proofs.LastItem
import ScenarioCompiler.Proofs.Outcome

namespace ScenarioCompiler.DatasetIds

variable {solution : Solution} {values : List ParameterValue} {value : ParameterValue}
  {found : Option (String × List String)} {ids : List String} {f : Failure}

theorem parse_eq_error {text : String} (h : parse text = .error f) :
    ∃ reason, f = .malformedDatasetIds text reason := by
  unfold parse at h
  split at h
  · split at h
    · exact ⟨_, (Except.error.inj h).symm⟩
    · dsimp only at h
      split at h
      · simp at h
      · split at h
        · simp at h
        · exact ⟨_, (Except.error.inj h).symm⟩
      · exact ⟨_, (Except.error.inj h).symm⟩
  · simp at h

theorem parameter?_eq_some {id : String} {parameter : SolutionParameter} :
    parameter? solution id = some parameter ↔ IsLast (·.id = id) solution.parameters parameter :=
  find?_reverse_eq_some

/-- A parameter of the solution whose values name datasets. -/
def OfDatasets (solution : Solution) (id : String) : Prop :=
  ∃ parameter, IsLast (·.id = id) solution.parameters parameter ∧
    Placeholder.classify parameter.varType = .datasetId

/-- The ids of the datasets that a value names. -/
def Names (solution : Solution) (value : ParameterValue) (ids : List String) : Prop :=
  OfDatasets solution value.parameterId ∧ value.value ≠ "" ∧ parse value.value = .ok ids

/-- A value belongs to a parameter of the solution and can be read. -/
structure Readable (solution : Solution) (value : ParameterValue) : Prop where
  parameter : ∃ parameter, IsLast (·.id = value.parameterId) solution.parameters parameter
  parses : OfDatasets solution value.parameterId → value.value ≠ "" →
    ∃ ids, parse value.value = .ok ids

theorem ofDatasets_iff {id : String} {parameter : SolutionParameter}
    (h : parameter? solution id = some parameter) :
    OfDatasets solution id ↔ Placeholder.classify parameter.varType = .datasetId := by
  constructor
  · rintro ⟨other, hl, hc⟩
    rwa [Option.some.inj (h.symm.trans (parameter?_eq_some.2 hl))]
  · exact fun hc => ⟨parameter, parameter?_eq_some.1 h, hc⟩

theorem ofValue_eq_some {item : String × List String} :
    ofValue solution value = .ok (some item) ↔
      item.1 = value.parameterId ∧ Names solution value item.2 := by
  obtain ⟨id, ids⟩ := item
  constructor
  · intro h
    unfold ofValue at h
    split at h
    · simp at h
    · rename_i parameter hp
      split at h
      · simp at h
      · rename_i hc
        split at h
        · simp at h
        · rename_i hv
          obtain ⟨_, hids, he⟩ := map_eq_ok.1 h
          obtain ⟨rfl, rfl⟩ := Prod.mk.inj (Option.some.inj he)
          exact ⟨(parameter?_eq_some.1 hp).prop, (ofDatasets_iff hp).2 (not_not.1 hc),
            by simpa using hv, hids⟩
  · rintro ⟨rfl, ⟨parameter, hl, hc⟩, hv, hids⟩
    have hid : parameter.id = value.parameterId := hl.prop
    dsimp only at hids
    simp [ofValue, parameter?_eq_some.2 hl, hc, hv, hids, Except.map, hid]

theorem exists_ofValue_eq_ok : (∃ found, ofValue solution value = .ok found) ↔
    Readable solution value := by
  cases hp : parameter? solution value.parameterId with
  | none =>
    have hn : ¬ Readable solution value := by
      intro h
      obtain ⟨parameter, hl⟩ := h.parameter
      simp [parameter?_eq_some.2 hl] at hp
    simp [ofValue, hp, hn]
  | some parameter =>
    -- the parameter exists, so only the text of the value can be at fault
    have hr : Readable solution value ↔ (Placeholder.classify parameter.varType = .datasetId →
        value.value ≠ "" → ∃ ids, parse value.value = .ok ids) := by
      rw [← ofDatasets_iff hp]
      exact ⟨fun h => h.parses, fun h => ⟨⟨parameter, parameter?_eq_some.1 hp⟩, h⟩⟩
    rw [hr]
    by_cases hc : Placeholder.classify parameter.varType = .datasetId
    · by_cases hv : value.value = ""
      · simp [ofValue, hp, hc, hv]
      · simp [ofValue, hp, hc, hv, map_eq_ok]
    · simp [ofValue, hp, hc]

theorem ofValue_eq_error (h : ofValue solution value = .error f) :
    (∃ parameterId solutionId, f = .unknownParameter parameterId solutionId) ∨
      ∃ text reason, f = .malformedDatasetIds text reason := by
  unfold ofValue at h
  split at h
  · exact .inl ⟨_, _, (Except.error.inj h).symm⟩
  · split at h
    · simp at h
    · split at h
      · simp at h
      · obtain ⟨reason, hf⟩ := parse_eq_error (map_eq_error.1 h)
        exact .inr ⟨_, reason, hf⟩

/-- All values are read just when each of them can be. -/
theorem perParameter_snd_eq_none :
    (perParameter solution values).2 = none ↔ ∀ value ∈ values, Readable solution value := by
  induction values with
  | nil => simp [perParameter]
  | cons value rest ih =>
    rw [List.forall_mem_cons, ← ih, ← exists_ofValue_eq_ok, perParameter]
    cases ofValue solution value <;> simp

theorem perParameter_snd_eq_some (h : (perParameter solution values).2 = some f) :
    (∃ parameterId solutionId, f = .unknownParameter parameterId solutionId) ∨
      ∃ text reason, f = .malformedDatasetIds text reason := by
  induction values with
  | nil => simp [perParameter] at h
  | cons value rest ih =>
    rw [perParameter] at h
    split at h
    · rename_i failure hv
      rw [← Option.some.inj h]
      exact ofValue_eq_error hv
    · exact ih h

/-- What is read before the first failure are the ids that values name, with their parameters. -/
theorem names_of_mem_perParameter {item : String × List String}
    (h : item ∈ (perParameter solution values).1) :
    ∃ value ∈ values, item.1 = value.parameterId ∧ Names solution value item.2 := by
  induction values with
  | nil => simp [perParameter] at h
  | cons value rest ih =>
    rw [perParameter] at h
    split at h
    · simp at h
    · rename_i found hv
      rcases List.mem_append.1 h with h | h
      · rw [Option.mem_toList] at h
        subst h
        exact ⟨value, List.mem_cons_self, ofValue_eq_some.1 hv⟩
      · obtain ⟨other, hm, hn⟩ := ih h
        exact ⟨other, List.mem_cons_of_mem _ hm, hn⟩

theorem mem_perParameter (h : (perParameter solution values).2 = none)
    (hv : value ∈ values) (hn : Names solution value ids) :
    (value.parameterId, ids) ∈ (perParameter solution values).1 := by
  induction values with
  | nil => simp at hv
  | cons first rest ih =>
    rw [perParameter] at h ⊢
    cases hf : ofValue solution first with
    | error failure => simp [hf] at h
    | ok found =>
      simp only [hf] at h ⊢
      rcases List.mem_cons.1 hv with rfl | hv
      · have hs : ofValue solution value = .ok (some (value.parameterId, ids)) :=
          ofValue_eq_some.2 ⟨rfl, hn⟩
        obtain rfl := Except.ok.inj (hf.symm.trans hs)
        exact List.mem_append_left _ (by simp)
      · exact List.mem_append_right _ (ih h hv)

variable {scenario : Scenario} {items : List (String × List String)}

theorem ofScenario_eq_ok : ofScenario scenario solution = .ok items ↔
    perParameter solution scenario.parametersValues = (items, none) := by
  unfold ofScenario
  split <;> simp_all

/-! ### The datasets to look up -/

variable {template : RunTemplate} {collected : List String} {id parameterId : String}

/-- A value of the parameter names the id. -/
def Mentions (scenario : Scenario) (parameterId id : String) : Prop :=
  ∃ value ∈ scenario.parametersValues, value.parameterId = parameterId ∧ value.value ≠ "" ∧
    ∃ ids, parse value.value = .ok ids ∧ id ∈ ids

theorem mem_valuesOf : value ∈ scenario.parametersValues.filter
      (fun v => v.parameterId = parameterId && !v.value.isEmpty) ↔
    value ∈ scenario.parametersValues ∧ value.parameterId = parameterId ∧ value.value ≠ "" := by
  simp

theorem mem_ofParameter (h : ofParameter scenario parameterId = .ok collected) :
    id ∈ collected ↔ Mentions scenario parameterId id := by
  simp only [ofParameter, bind_eq_ok, pure_eq_ok] at h
  obtain ⟨lists, hl, rfl⟩ := h
  rw [List.mem_flatten]
  constructor
  · rintro ⟨ids, hids, hid⟩
    obtain ⟨value, hv, hp⟩ := exists_of_mem_mapM hl hids
    obtain ⟨hv, hparameter, hne⟩ := mem_valuesOf.1 hv
    exact ⟨value, hv, hparameter, hne, ids, hp, hid⟩
  · rintro ⟨value, hv, hparameter, hne, ids, hp, hid⟩
    obtain ⟨named, hn, hp'⟩ := mapM_eq_ok hl (mem_valuesOf.2 ⟨hv, hparameter, hne⟩)
    obtain rfl := Except.ok.inj (hp.symm.trans hp')
    exact ⟨ids, hn, hid⟩

theorem exists_ofParameter (h : ∀ value ∈ scenario.parametersValues,
      value.parameterId = parameterId → value.value ≠ "" → ∃ ids, parse value.value = .ok ids) :
    ∃ ids, ofParameter scenario parameterId = .ok ids := by
  have hall : ∀ value ∈ scenario.parametersValues.filter
      (fun v => v.parameterId = parameterId && !v.value.isEmpty),
      ∃ ids, parse value.value = .ok ids := by
    intro value hv
    obtain ⟨hv, hparameter, hne⟩ := mem_valuesOf.1 hv
    exact h value hv hparameter hne
  obtain ⟨lists, hl⟩ := exists_mapM_eq_ok hall
  exact ⟨lists.flatten, bind_eq_ok.2 ⟨lists, hl, rfl⟩⟩

/-- A parameter in a group of the run template whose values name datasets. -/
structure Collects (solution : Solution) (template : RunTemplate) (parameter : SolutionParameter) :
    Prop where
  mem : parameter ∈ solution.parameters
  grouped : parameter.id ∈ groupedParameters solution (template.parameterGroups.getD [])
  ofDatasets : Placeholder.classify parameter.varType = .datasetId

theorem collects_iff {parameter : SolutionParameter} : parameter ∈ solution.parameters.filter
      (fun p => (groupedParameters solution (template.parameterGroups.getD [])).contains p.id &&
        Placeholder.classify p.varType = .datasetId) ↔ Collects solution template parameter := by
  simp only [List.mem_filter, Bool.and_eq_true, List.contains_iff_mem, decide_eq_true_eq]
  exact ⟨fun ⟨hm, hg, hc⟩ => ⟨hm, hg, hc⟩, fun ⟨hm, hg, hc⟩ => ⟨hm, hg, hc⟩⟩

theorem collect_eq_ok (h : collect scenario solution template = .ok collected) :
    ∃ named, collected = distinct (scenario.datasetList ++ named) ∧ ∀ id, id ∈ named ↔
      ∃ parameter, Collects solution template parameter ∧ Mentions scenario parameter.id id := by
  simp only [collect, bind_eq_ok, pure_eq_ok] at h
  obtain ⟨lists, hl, rfl⟩ := h
  refine ⟨lists.flatten, rfl, fun id => ?_⟩
  rw [List.mem_flatten]
  constructor
  · rintro ⟨ids, hids, hid⟩
    obtain ⟨parameter, hp, ho⟩ := exists_of_mem_mapM hl hids
    exact ⟨parameter, collects_iff.1 hp, (mem_ofParameter ho).1 hid⟩
  · rintro ⟨parameter, hp, hid⟩
    obtain ⟨ids, hids, ho⟩ := mapM_eq_ok hl (collects_iff.2 hp)
    exact ⟨ids, hids, (mem_ofParameter ho).2 hid⟩

theorem exists_collect (h : ∀ parameter, Collects solution template parameter →
      ∃ ids, ofParameter scenario parameter.id = .ok ids) :
    ∃ collected, collect scenario solution template = .ok collected := by
  obtain ⟨lists, hl⟩ := exists_mapM_eq_ok fun parameter hp => h parameter (collects_iff.1 hp)
  exact ⟨_, bind_eq_ok.2 ⟨lists, hl, rfl⟩⟩

/-- The datasets of the scenario are looked up. -/
theorem mem_collect_of_datasetList (h : collect scenario solution template = .ok collected)
    (hid : id ∈ scenario.datasetList) : id ∈ collected := by
  obtain ⟨named, rfl, -⟩ := collect_eq_ok h
  exact mem_distinct.2 (List.mem_append_left _ hid)

/-- The datasets that a parameter of the groups of the run template names are looked up. -/
theorem mem_collect_of_names (h : collect scenario solution template = .ok collected)
    (hv : value ∈ scenario.parametersValues) (hn : Names solution value ids)
    (hg : value.parameterId ∈ groupedParameters solution (template.parameterGroups.getD []))
    (hid : id ∈ ids) : id ∈ collected := by
  obtain ⟨⟨parameter, hl, hc⟩, hne, hp⟩ := hn
  obtain ⟨named, rfl, hnamed⟩ := collect_eq_ok h
  have hparameter : value.parameterId = parameter.id := hl.prop.symm
  have hcollects : Collects solution template parameter := ⟨hl.mem, hparameter ▸ hg, hc⟩
  have hmem : id ∈ named := (hnamed id).2
    ⟨parameter, hcollects, value, hv, hparameter, hne, ids, hp, hid⟩
  exact mem_distinct.2 (List.mem_append_right _ hmem)

end ScenarioCompiler.DatasetIds
