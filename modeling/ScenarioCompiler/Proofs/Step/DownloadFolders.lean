import Mathlib.Data.List.Nodup
import ScenarioCompiler.Proofs.Pipeline.Compile
import ScenarioCompiler.Proofs.Step.Download

namespace ScenarioCompiler

/-! ### Numbers at the end of a text -/

/-- Two lists are split at their last mark in one way. -/
theorem eq_of_split_at_last {α : Type} {mark : α} {xs ys : List α} (hx : mark ∉ xs)
    (hy : mark ∉ ys) :
    ∀ {first second : List α}, first ++ mark :: xs = second ++ mark :: ys →
      first = second ∧ xs = ys
  | [], [], h => ⟨rfl, (List.cons.inj h).2⟩
  | [], _ :: second, h => by
    obtain ⟨-, rfl⟩ := List.cons.inj h
    exact absurd (List.mem_append_right second List.mem_cons_self) hx
  | _ :: first, [], h => by
    obtain ⟨-, rfl⟩ := List.cons.inj h
    exact absurd (List.mem_append_right first List.mem_cons_self) hy
  | _ :: _, _ :: _, h => by
    obtain ⟨rfl, hrest⟩ := List.cons.inj h
    exact (eq_of_split_at_last hx hy hrest).imp_left (congrArg _)

theorem dash_not_mem_natText (n : Nat) : '-' ∉ (toString n).toList := by
  rw [Nat.toString_eq_repr, Nat.toList_repr]
  intro h
  exact absurd (Nat.isDigit_of_mem_toDigits (by decide) (by decide) h) (by decide)

theorem eq_of_numbered_eq {first second : String} {m n : Nat}
    (h : first ++ "-" ++ toString m = second ++ "-" ++ toString n) : first = second ∧ m = n := by
  have hl : first.toList ++ '-' :: (toString m).toList =
      second.toList ++ '-' :: (toString n).toList := by
    simpa using congrArg String.toList h
  obtain ⟨htext, hnumber⟩ :=
    eq_of_split_at_last (dash_not_mem_natText m) (dash_not_mem_natText n) hl
  exact ⟨String.toList_inj.1 htext, natText_injective (String.toList_inj.1 hnumber)⟩

namespace DatasetIds

variable {solution : Solution}

/-- Each value is read at most once, in the order of the values. -/
theorem perParameter_sublist : ∀ {values : List ParameterValue},
    ((perParameter solution values).1.map (·.1)).Sublist (values.map (·.parameterId))
  | [] => .slnil
  | value :: rest => by
    rw [perParameter, List.map_cons]
    cases hv : ofValue solution value with
    | error failure => exact List.nil_sublist _
    | ok found =>
      cases found with
      | none => exact perParameter_sublist.cons _
      | some item =>
        rw [← (ofValue_eq_some.1 hv).1]
        exact perParameter_sublist.cons_cons _

end DatasetIds

namespace Step

/-! ### The folders of the parameters -/

variable {item single several : String × List String} {items : List (String × List String)}
  {folder : String}

/-- The folders that the datasets of a parameter are downloaded to. -/
def folders (item : String × List String) : List String :=
  (List.range item.2.length).map (parameterFolder item.1 item.2.length)

theorem fst_parameterDatasets (items : List (String × List String)) :
    (parameterDatasets items).map (·.1) = items.flatMap folders := by
  rw [parameterDatasets, List.map_flatMap]
  congr 1
  funext item
  refine List.ext_getElem (by simp [folders]) fun position _ _ => ?_
  simp [folders]

theorem mem_folders : folder ∈ folders item ↔ item.2.length = 1 ∧ folder = item.1 ∨
    item.2.length ≠ 1 ∧ ∃ position < item.2.length,
      folder = item.1 ++ "-" ++ toString position := by
  simp only [folders, List.mem_map, List.mem_range, parameterFolder]
  by_cases h : item.2.length = 1
  · simp [h, eq_comm]
  · simp [h, eq_comm]

theorem folders_nodup (item : String × List String) : (folders item).Nodup := by
  refine List.Nodup.map_on (fun m hm n hn h => ?_) List.nodup_range
  rw [List.mem_range] at hm hn
  unfold parameterFolder at h
  split at h
  · omega
  · exact (eq_of_numbered_eq h).2

/-- The only dataset of a parameter is downloaded to a folder of a parameter with several ones:
the id of the first parameter is the one of the other with a number. -/
structure SharesFolder (single several : String × List String) : Prop where
  one : single.2.length = 1
  many : several.2.length ≠ 1
  numbered : ∃ position < several.2.length, single.1 = several.1 ++ "-" ++ toString position

theorem SharesFolder.mem (h : SharesFolder single several) :
    single.1 ∈ folders single ∧ single.1 ∈ folders several :=
  ⟨mem_folders.2 (.inl ⟨h.one, rfl⟩), mem_folders.2 (.inr ⟨h.many, h.numbered⟩)⟩

theorem sharesFolder_of_mem {first second : String × List String} (hid : first.1 ≠ second.1)
    (hfirst : folder ∈ folders first) (hsecond : folder ∈ folders second) :
    SharesFolder first second ∨ SharesFolder second first := by
  rcases mem_folders.1 hfirst with ⟨hf, rfl⟩ | ⟨hf, i, hi, rfl⟩
  · rcases mem_folders.1 hsecond with ⟨-, h⟩ | ⟨hs, hn⟩
    · exact absurd h hid
    · exact .inl ⟨hf, hs, hn⟩
  · rcases mem_folders.1 hsecond with ⟨hs, h⟩ | ⟨-, j, -, h⟩
    · exact .inr ⟨hs, hf, i, hi, h.symm⟩
    · exact absurd (eq_of_numbered_eq h).1 hid

/-- Parameters with different ids have different folders unless one of them shares a folder. -/
theorem nodup_folders_iff (hids : (items.map (·.1)).Nodup) :
    (items.flatMap folders).Nodup ↔
      ¬ ∃ single ∈ items, ∃ several ∈ items, SharesFolder single several := by
  rw [List.nodup_flatMap]
  constructor
  · rintro ⟨-, hdisjoint⟩ ⟨single, hsingle, several, hseveral, h⟩
    have hne : single ≠ several := by
      rintro rfl
      exact h.many h.one
    -- both folders of the pair are in the list, at different parameters
    have : Std.Symm (Function.onFun List.Disjoint folders) := ⟨fun _ _ => List.disjoint_symm⟩
    exact hdisjoint.forall hsingle hseveral hne h.mem.1 h.mem.2
  · intro hapart
    refine ⟨fun item _ => folders_nodup item, ?_⟩
    refine (List.pairwise_map.1 hids).imp_of_mem fun {first second} hf hs hid => ?_
    intro folder hfirst hsecond
    rcases sharesFolder_of_mem hid hfirst hsecond with h | h
    · exact hapart ⟨first, hf, second, hs, h⟩
    · exact hapart ⟨second, hs, first, hf, h⟩

/-! ### The folders of the containers -/

variable {run : RunContext} {catalog : Catalog} {scenario : Scenario} {solution : Solution}
  {dependencies : Option (List String)} {containers : List Container} {forParameter : Bool}
  {index : Nat} {downloads : List (Option String × String)}

/-- Containers write to the folders of their datasets where no connector says otherwise. -/
theorem fetchPaths_fetchNumbered
    (hconnectors : ∀ connector ∈ catalog.connectors, ∀ p ∈ connector.parameters,
      p.envVar ≠ some fetchPathVariable)
    (h : fetchNumbered run catalog forParameter dependencies index downloads = .ok containers) :
    containers.map (·.envValue? fetchPathVariable) =
      downloads.map fun item => some (FetchTarget.path ⟨forParameter, item.1, 0⟩) := by
  have hpaths : List.Forall₂ (· = ·)
      ((downloads.zipIdx index).map fun entry =>
        some (FetchTarget.path ⟨forParameter, entry.1.1, 0⟩))
      (containers.map (·.envValue? fetchPathVariable)) := by
    rw [List.forall₂_map_left_iff, List.forall₂_map_right_iff]
    refine (fetches_of_fetchNumbered h).imp fun entry c hc => ?_
    obtain ⟨-, dataset, connector, hs, hd⟩ := hc
    exact (hd.folder (hconnectors connector hs.last_connector.mem)).symm
  rw [List.forall₂_eq_eq_eq] at hpaths
  rw [← hpaths]
  conv_rhs => rw [← List.zipIdx_map_fst index downloads, List.map_map]
  rfl

/-- The datasets of the parameters of a scenario that gives at most one value to each parameter are
downloaded to different folders just when no parameter with one dataset is named like a numbered
folder of a parameter with several ones. -/
theorem downloads_apart_iff
    (hvalues : (scenario.parametersValues.map (·.parameterId)).Nodup)
    (hconnectors : ∀ connector ∈ catalog.connectors, ∀ p ∈ connector.parameters,
      p.envVar ≠ some fetchPathVariable)
    (h : fetchDatasetParameters run catalog scenario solution dependencies = .ok containers) :
    ∃ items, ∃ paths : List String, DatasetIds.ofScenario scenario solution = .ok items ∧
      containers.map (·.envValue? fetchPathVariable) = paths.map some ∧
      (paths.Nodup ↔ ¬ ∃ single ∈ items, ∃ several ∈ items, SharesFolder single several) := by
  obtain ⟨hnone, hfetched⟩ := fetchDatasetParameters_eq_ok h
  let items := (DatasetIds.perParameter solution scenario.parametersValues).1
  have hitems : DatasetIds.ofScenario scenario solution = .ok items :=
    DatasetIds.ofScenario_eq_ok.2 (Prod.ext rfl hnone)
  -- every value adds the folders of one parameter at most
  have hids : (items.map (·.1)).Nodup := DatasetIds.perParameter_sublist.nodup hvalues
  refine ⟨items, (items.flatMap folders).map (Environment.parametersPath ++ "/" ++ ·), hitems,
    ?_, ?_⟩
  · rw [fetchPaths_fetchNumbered hconnectors hfetched, namedDatasets, List.map_map,
      ← fst_parameterDatasets, List.map_map, List.map_map]
    rfl
  · rw [List.nodup_map_iff fun _ _ => append_injective, nodup_folders_iff hids]

/-! ### Two parameters, one with two datasets -/

/-- A scenario in which the parameter "p" lists two datasets and another parameter names one. -/
def listedScenario (other : String) : Scenario where
  id := "scenario"
  name := none
  runTemplateId := "template"
  datasetList := []
  parametersValues := [⟨"p", "[d-1, d-2]", none⟩, ⟨other, "d-1", none⟩]
  resourceSizing := none

def listedSolution (other : String) : Solution :=
  { (Pipeline.smallRequest none).solution with
    parameters := ["p", other].map fun id => ⟨id, some Placeholder.datasetIdToken, none⟩ }

def listedCatalog : Catalog where
  datasets := ["d-1", "d-2"].map fun id => ⟨id, none, some ⟨some "c", none, none, .empty⟩⟩
  connectors := [⟨"c", none, none, "connector", none, none, none, []⟩]

def listedRun : RunContext where
  settings := Pipeline.smallPlatform
  organization := ⟨"o", none⟩
  workspace := ⟨"w", "key", none, none, none⟩
  scenarioId := "scenario"
  csmSimulationId := "id"

theorem listedRun_apart : ∃ containers, ∃ paths : List String,
    fetchDatasetParameters listedRun listedCatalog (listedScenario "q") (listedSolution "q") none =
      .ok containers ∧
    containers.map (·.envValue? fetchPathVariable) = paths.map some ∧ paths.Nodup := by
  have hlength : (fetchDatasetParameters listedRun listedCatalog (listedScenario "q")
      (listedSolution "q") none).map (·.length) = .ok 3 := by
    decide +kernel
  obtain ⟨containers, h, -⟩ := map_eq_ok.1 hlength
  have hread : DatasetIds.ofScenario (listedScenario "q") (listedSolution "q") =
      .ok [("p", ["d-1", "d-2"]), ("q", ["d-1"])] := by
    decide +kernel
  obtain ⟨items, paths, hitems, hpaths, hiff⟩ := downloads_apart_iff (by decide) (by decide) h
  obtain rfl := Except.ok.inj (hread.symm.trans hitems)
  refine ⟨containers, paths, h, hpaths, hiff.2 ?_⟩
  -- the only parameter with one dataset has another first letter than the numbered folders
  rintro ⟨single, hsingle, several, hseveral, hone, hmany, position, -, hnumbered⟩
  simp only [List.mem_cons, List.not_mem_nil, or_false] at hsingle hseveral
  rcases hsingle with rfl | rfl
  · exact absurd hone (by decide)
  · rcases hseveral with rfl | rfl
    · simpa using congrArg (·.toList.head?) hnumbered
    · exact hmany rfl

/-- A parameter that is named like a numbered folder of another one overwrites the dataset there,
although the scenario gives one value to each parameter and the connector binds no folder. -/
theorem listedRun_overwrites :
    ((listedScenario "p-0").parametersValues.map (·.parameterId)).Nodup ∧
      (∀ connector ∈ listedCatalog.connectors, ∀ p ∈ connector.parameters,
        p.envVar ≠ some fetchPathVariable) ∧
      ∃ containers, fetchDatasetParameters listedRun listedCatalog (listedScenario "p-0")
          (listedSolution "p-0") none = .ok containers ∧
        containers.map (·.envValue? fetchPathVariable) =
          [some "/mnt/scenariorun-parameters/p-0", some "/mnt/scenariorun-parameters/p-1",
            some "/mnt/scenariorun-parameters/p-0"] ∧
        ¬ (containers.map (·.envValue? fetchPathVariable)).Nodup := by
  have hpaths : (fetchDatasetParameters listedRun listedCatalog (listedScenario "p-0")
      (listedSolution "p-0") none).map (·.map (·.envValue? fetchPathVariable)) =
      .ok [some "/mnt/scenariorun-parameters/p-0", some "/mnt/scenariorun-parameters/p-1",
        some "/mnt/scenariorun-parameters/p-0"] := by
    decide +kernel
  obtain ⟨containers, h, hp⟩ := map_eq_ok.1 hpaths
  refine ⟨by decide, by decide, containers, h, hp, ?_⟩
  rw [hp]
  decide

end Step

end ScenarioCompiler
