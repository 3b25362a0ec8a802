import ScenarioCompiler.Proofs.Step.Fetch
import ScenarioCompiler.Proofs.Step.Variables

namespace ScenarioCompiler

namespace ConnectorBinding

variable {settings : PlatformSettings} {dataset : Dataset} {connector : Connector}
  {organizationId workspaceId name : String} {binding : ConnectorBinding}

theorem envVar_of_foldl_add {resolve : String → Bool → String} {values : Bindings}
    {parameters : List ConnectorParameter}
    (h : name ∈ (parameters.foldl (add resolve values) binding).envVars.names) :
    name ∈ binding.envVars.names ∨ ∃ p ∈ parameters, p.envVar = some name := by
  induction parameters generalizing binding with
  | nil => exact .inl h
  | cons p rest ih =>
    rcases ih h with h | ⟨q, hq, he⟩
    · unfold add at h
      split at h
      · rename_i envVar hp
        rcases Table.mem_names_put.1 h with h | rfl
        · exact .inl h
        · exact .inr ⟨p, List.mem_cons_self, hp⟩
      · exact .inl h
    · exact .inr ⟨q, List.mem_cons_of_mem _ hq, he⟩

/-- A connector binds only the variables that its parameters declare. -/
theorem envVar_of_mem_names
    (h : of settings connector dataset organizationId workspaceId = .ok binding)
    (hn : name ∈ binding.envVars.names) : ∃ p ∈ connector.parameters, p.envVar = some name := by
  simp only [of, bind_eq_ok, pure_eq_ok] at h
  obtain ⟨values, -, rfl⟩ := h
  have hempty : name ∉ Bindings.names .empty := by
    simp [Bindings.names, Bindings.empty, Table.names]
  exact (envVar_of_foldl_add hn).resolve_left hempty

end ConnectorBinding

namespace Step

variable {run : RunContext} {catalog : Catalog} {dataset : Dataset} {connector : Connector}
  {target : FetchTarget} {dependencies : Option (List String)} {forParameter : Bool} {index : Nat}
  {items : List (Option String × String)} {c : Container} {containers : List Container}

/-- A container downloads a dataset with a connector: it runs the image of the connector with the
values that the dataset gives to its parameters, and writes to the folder unless one of these
parameters says where to write. -/
structure Downloads (run : RunContext) (dataset : Dataset) (connector : Connector)
    (folder : String) (c : Container) : Prop where
  image : c.image = imageName run.coreRegistry connector.repository connector.version
  bindings : ∃ binding, ConnectorBinding.of run.settings connector dataset run.organization.id
      run.workspace.id = .ok binding ∧ c.runArgs = some binding.arguments ∧
    ∀ name value, binding.envVars.get? name = some value → c.envValue? name = some value
  folder : (∀ p ∈ connector.parameters, p.envVar ≠ some fetchPathVariable) →
    c.envValue? fetchPathVariable = some folder

theorem downloads_of_fetchDataset
    (h : fetchDataset run dataset connector target dependencies = .ok c) :
    Downloads run dataset connector target.path c := by
  simp only [fetchDataset, bind_eq_ok, pure_eq_ok] at h
  obtain ⟨binding, hb, common, -, labels, -, rfl⟩ := h
  have hget : ∀ name,
      ((common.put fetchPathVariable target.path).update binding.envVars).get? name =
        (binding.envVars.get? name).or ((common.put fetchPathVariable target.path).get? name) :=
    fun _ => Table.get?_putAll binding.envVars.distinct
  refine ⟨rfl, ⟨binding, hb, rfl, fun name value hv => ?_⟩, fun hp => ?_⟩
  · rw [Container.envValue?, Option.bind_some, hget, hv, Option.some_or]
  · have hnone : binding.envVars.get? fetchPathVariable = none := by
      refine Table.get?_eq_none.2 fun hn => ?_
      obtain ⟨p, hm, he⟩ := ConnectorBinding.envVar_of_mem_names hb hn
      exact hp p hm he
    rw [Container.envValue?, Option.bind_some, hget, hnone, Option.none_or, Bindings.get?_put,
      if_pos rfl]

/-- The container of a name downloads the dataset of an id with the connector that it uses. -/
def Fetches (run : RunContext) (catalog : Catalog) (name folder id : String) (c : Container) :
    Prop :=
  c.name = name ∧ ∃ dataset connector, catalog.Supplies id dataset connector ∧
    Downloads run dataset connector folder c

theorem fetches_of_fetchNumbered
    (h : fetchNumbered run catalog forParameter dependencies index items = .ok containers) :
    List.Forall₂ (fun entry c => Fetches run catalog (fetchName forParameter entry.2)
      (FetchTarget.path ⟨forParameter, entry.1.1, (entry.2 : Nat)⟩) entry.1.2 c)
      (items.zipIdx index) containers := by
  refine (fetchNumbered_eq_ok_iff.1 h).imp fun entry c hc => ?_
  obtain ⟨dataset, connector, hs, hf⟩ := hc
  exact ⟨(fetchDataset_eq_ok hf).1, dataset, connector, hs, downloads_of_fetchDataset hf⟩

/-! ### Datasets of parameters -/

variable {solution : Solution} {values : List ParameterValue} {downloads : List (String × String)}

/-- The folder and the id of each dataset that the values of parameters name, in the order of the
values. The only dataset of a value needs no number. -/
inductive ParameterDownloads (solution : Solution) :
    List ParameterValue → List (String × String) → Prop
  | nil : ParameterDownloads solution [] []
  | skip {value : ParameterValue} {rest : List ParameterValue} {downloads : List (String × String)}
      (unused : ¬ DatasetIds.OfDatasets solution value.parameterId ∨ value.value = "")
      (later : ParameterDownloads solution rest downloads) :
      ParameterDownloads solution (value :: rest) downloads
  | datasets {value : ParameterValue} {rest : List ParameterValue} {ids : List String}
      {downloads : List (String × String)} (names : DatasetIds.Names solution value ids)
      (later : ParameterDownloads solution rest downloads) :
      ParameterDownloads solution (value :: rest) (ids.mapIdx (fun position id =>
        (if ids.length = 1 then value.parameterId
          else value.parameterId ++ "-" ++ toString position, id)) ++ downloads)

theorem ParameterDownloads.unique {first second : List (String × String)}
    (h : ParameterDownloads solution values first)
    (h' : ParameterDownloads solution values second) : first = second := by
  -- a value that is left out for one list cannot name the datasets of the other
  have exclusive {value : ParameterValue} {ids : List String}
      (hu : ¬ DatasetIds.OfDatasets solution value.parameterId ∨ value.value = "")
      (hn : DatasetIds.Names solution value ids) : False :=
    hu.elim (fun ho => ho hn.1) hn.2.1
  induction h generalizing second with
  | nil =>
    cases h'
    rfl
  | skip unused _ ih =>
    cases h' with
    | skip _ later => exact ih later
    | datasets names _ => exact (exclusive unused names).elim
  | datasets names _ ih =>
    cases h' with
    | skip unused _ => exact (exclusive unused names).elim
    | datasets names' later =>
      obtain rfl := Except.ok.inj (names.2.2.symm.trans names'.2.2)
      rw [ih later]

end Step

namespace DatasetIds

variable {solution : Solution} {value : ParameterValue}

theorem ofValue_eq_none (h : ofValue solution value = .ok none) :
    ¬ OfDatasets solution value.parameterId ∨ value.value = "" := by
  unfold ofValue at h
  split at h
  · simp at h
  · rename_i parameter hp
    rw [ofDatasets_iff hp]
    split at h
    · exact .inl ‹_›
    · split at h
      · rename_i he
        exact .inr (by simpa using he)
      · obtain ⟨_, -, he⟩ := map_eq_ok.1 h
        cases he

end DatasetIds

namespace Step

variable {solution : Solution} {scenario : Scenario} {values : List ParameterValue}

theorem parameterDownloads_of_perParameter
    (h : (DatasetIds.perParameter solution values).2 = none) :
    ParameterDownloads solution values
      (parameterDatasets (DatasetIds.perParameter solution values).1) := by
  induction values with
  | nil => exact .nil
  | cons value rest ih =>
    rw [DatasetIds.perParameter] at h ⊢
    cases hv : DatasetIds.ofValue solution value with
    | error failure => simp [hv] at h
    | ok found =>
      simp only [hv] at h ⊢
      cases found with
      | none => exact .skip (DatasetIds.ofValue_eq_none hv) (ih h)
      | some item =>
        obtain ⟨id, ids⟩ := item
        obtain ⟨rfl, hn⟩ := DatasetIds.ofValue_eq_some.1 hv
        exact .datasets hn (ih h)

end Step

end ScenarioCompiler
