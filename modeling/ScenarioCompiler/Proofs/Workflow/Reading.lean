import ScenarioCompiler.Proofs.Workflow.Document

namespace ScenarioCompiler

/-- What a workflow keeps of a container: labels that are absent are like no labels, and the root
is no dependency. -/
structure Lowered where
  name : String
  image : String
  entrypoint : Option String
  runArgs : Option (List String)
  envVars : Option (Table String)
  runSizing : Option ResourceSizing
  labels : Table String
  dependencies : List String
  deriving DecidableEq, Repr

def Container.lowered (c : Container) : Lowered where
  name := c.name
  image := c.image
  entrypoint := c.entrypoint
  runArgs := c.runArgs
  envVars := c.envVars.map (·.entries)
  runSizing := c.runSizing
  labels := (c.labels.map (·.entries)).getD []
  dependencies := c.waitsFor

theorem mapM_map_eq_some {α β : Type} {read : β → Option α} (write : α → β)
    (h : ∀ x, read (write x) = some x) (xs : List α) : (xs.map write).mapM read = some xs := by
  induction xs with
  | nil => rfl
  | cons x rest ih => simp [h, ih]

namespace Workflow

/-! ### Reading -/

section Readers

variable {α : Type}

/-- Reads a field that may be absent. -/
def readOptional (read : Json → Option α) : Option Json → Option (Option α)
  | none => some none
  | some x => (read x).map some

def readTexts (x : Json) : Option (List String) := do
  (← x.items?).mapM Json.text?

def readBindings : Json → Option (Table String)
  | .obj fields => fields.mapM fun f => f.2.text?.map fun text => (f.1, text)
  | _ => none

def readEntrypoint (x : Json) : Option String := do
  match ← readTexts x with
  | [entrypoint] => some entrypoint
  | _ => none

def readEnvVar (x : Json) : Option (String × String) := do
  pure (← x.textField? "name", ← x.textField? "value")

def readEnv (x : Json) : Option (Table String) := do
  (← x.items?).mapM readEnvVar

def readSize (x : Json) : Option ResourceSize := do
  pure ⟨← x.textField? "cpu", ← x.textField? "memory"⟩

def readSizing (x : Json) : Option ResourceSizing := do
  pure ⟨← readSize (← x.field? "requests"), ← readSize (← x.field? "limits")⟩

def readLabels (template : Json) : Option (Table String) :=
  match template.field? "metadata" with
  | none => some []
  | some metadata => do readBindings (← metadata.field? "labels")

def readDependencies (task : Json) : Option (List String) :=
  match task.field? "dependencies" with
  | none => some []
  | some x => readTexts x

/-- The container behind a template and its task. -/
def readContainer (template task : Json) : Option Lowered := do
  let pod ← template.field? "container"
  pure {
    name := ← template.textField? "name"
    image := ← pod.textField? "image"
    entrypoint := ← readOptional readEntrypoint (pod.field? "command")
    runArgs := ← readOptional readTexts (pod.field? "args")
    envVars := ← readOptional readEnv (pod.field? "env")
    runSizing := ← readOptional readSizing (pod.field? "resources")
    labels := ← readLabels template
    dependencies := ← readDependencies task }

/-- The containers behind templates and their tasks, which have to be equally many. -/
def readAll : List Json → List Json → Option (List Lowered)
  | [], [] => some []
  | template :: templates, task :: tasks => do
    let container ← readContainer template task
    pure (container :: (← readAll templates tasks))
  | _, _ => none

/-- The containers behind the document of a workflow, whose last template holds the tasks. -/
def readContainers (document : Json) : Option (List Lowered) := do
  let templates ← templatesOf document
  readAll templates.dropLast (← tasksOf (← templates.getLast?))

end Readers

/-! ### Reading what was written -/

theorem readOptional_map {α β : Type} {read : Json → Option β} {write : α → Json} (view : α → β)
    (h : ∀ x, read (write x) = some (view x)) (o : Option α) :
    readOptional read (o.map write) = some (o.map view) := by
  cases o with
  | none => rfl
  | some x => simp [readOptional, h]

theorem readTexts_arr (items : List String) : readTexts (.arr (items.map .str)) = some items :=
  mapM_map_eq_some Json.str (fun _ => rfl) items

theorem readEntrypoint_arr (entrypoint : String) :
    readEntrypoint (.arr ([entrypoint].map .str)) = some entrypoint := by
  rw [readEntrypoint, readTexts_arr]
  rfl

theorem readBindings_obj (entries : Table String) :
    readBindings (.obj (entries.map fun e => (e.1, .str e.2))) = some entries :=
  mapM_map_eq_some (fun e : String × String => (e.1, Json.str e.2)) (fun _ => rfl) entries

theorem readEnv_document (env : Bindings) :
    readEnv (envVarsToApi env).document = some env.entries := by
  rw [envVarsToApi, ApiValue.document_list, List.map_map]
  refine mapM_map_eq_some _ (fun e => ?_) env.entries
  simp [readEnvVar, Json.textField?]

theorem readSizing_document (x : ResourceSizing) :
    readSizing (sizingToApi x).document = some x := by
  have hsize (y : ResourceSize) : readSize (sizeToApi y).document = some y := by
    simp [readSize, Json.textField?, Table.get?]
  simp only [readSizing, field?_requests, field?_limits, Option.bind_eq_bind, Option.bind_some,
    hsize]
  rfl

theorem readLabels_pod (name : String) (labels : Option Bindings) (pod : PodContainer) :
    readLabels (Template.pod name labels pod).document =
      some ((labels.map (·.entries)).getD []) := by
  cases labels with
  | none => simp [readLabels]
  | some ls => simp [readLabels, readBindings_obj]

/-- Labels without entries are left out, which a reader cannot tell from no labels. -/
theorem entries_filter_labels (labels : Option Bindings) :
    (((labels.filter (!·.isEmpty)).map (·.entries)).getD []) =
      (labels.map (·.entries)).getD [] := by
  cases labels with
  | none => rfl
  | some ls => cases he : ls.entries <;> simp [Option.filter, Bindings.isEmpty, he]

theorem readDependencies_task (c : Container) :
    readDependencies (task c).document = some c.waitsFor := by
  rw [readDependencies, Task.field?_dependencies, task]
  cases hw : c.waitsFor with
  | nil => simp
  | cons d rest => exact readTexts_arr (d :: rest)

theorem readContainer_document (settings : PlatformSettings) (alwaysPull : Option Bool)
    (c : Container) :
    readContainer (podTemplate settings alwaysPull c).document (task c).document =
      some c.lowered := by
  have hcommand := readOptional_map id readEntrypoint_arr c.entrypoint
  have hargs := readOptional_map id readTexts_arr c.runArgs
  have henv := readOptional_map Bindings.entries readEnv_document c.envVars
  have hsizing := readOptional_map id readSizing_document c.runSizing
  have hlabels := readLabels_pod c.name (c.labels.filter (!·.isEmpty))
  have hdependencies := readDependencies_task c
  rw [readContainer, podTemplate, Template.field?_container_pod]
  simp_all [Json.textField?, Template.name, entries_filter_labels, Container.lowered,
    Function.comp_def]

theorem readAll_documents (settings : PlatformSettings) (alwaysPull : Option Bool)
    (containers : List Container) :
    readAll (containers.map fun c => (podTemplate settings alwaysPull c).document)
      (containers.map fun c => (task c).document) = some (containers.map Container.lowered) := by
  induction containers with
  | nil => rfl
  | cons c rest ih => simp [readAll, readContainer_document, ih]

/-- Lowering loses nothing about the containers: they can be read back from the document, in their
order, whatever settings the workflow was made with. -/
theorem lowering_keeps_containers (settings : PlatformSettings) (start : RunStart)
    (timeout : Option Int) (alwaysPull : Option Bool) :
    readContainers (ofStart settings start timeout alwaysPull).document =
      some (start.containers.map Container.lowered) := by
  have hpods : start.containers.map (Template.document ∘ podTemplate settings alwaysPull) =
      start.containers.map fun c => (podTemplate settings alwaysPull c).document := rfl
  have htasks : start.containers.map (Task.document ∘ task) =
      start.containers.map fun c => (task c).document := rfl
  simp only [readContainers, templatesOf_document, ofStart, specOf, List.map_append, List.map_cons,
    List.map_nil, List.getLast?_concat, List.dropLast_concat, Option.bind_eq_bind, Option.bind_some,
    tasksOf_graph, List.map_map, hpods, htasks]
  exact readAll_documents settings alwaysPull start.containers

end Workflow

end ScenarioCompiler
