import ScenarioCompiler.Proofs.Workflow.Serialize
import ScenarioCompiler.Workflow.Lowering

namespace ScenarioCompiler.Workflow

open ApiValue ApiClass

attribute [local simp] classes workflowClasses clusterClasses

def Template.name : Template → String
  | .pod name .. | .graph name _ => name

/-- The document of a template. -/
def Template.document (x : Template) : Json := x.toApi.document

/-- The document of a task. -/
def Task.document (x : Task) : Json := x.toApi.document

/-- The document of the container of a pod. -/
def PodContainer.document (x : PodContainer) : Json := x.toApi.document

/-! ### Fields -/

@[simp] theorem field?_spec (w : Workflow) :
    w.document.field? "spec" = some w.spec.toApi.document :=
  field?_object "spec" (by simp) (by decide)

@[simp] theorem Spec.field?_entrypoint (x : Spec) :
    x.toApi.document.field? "entrypoint" = some (.str x.entrypoint) :=
  field?_object "entrypoint" (by simp) (by decide)

@[simp] theorem Spec.field?_templates (x : Spec) : x.toApi.document.field? "templates" =
    some (.arr (x.templates.map Template.document)) :=
  field?_object_list "templates" (by simp) (by decide) rfl

namespace Template

variable (name : String) (labels : Option Bindings) (container : PodContainer) (tasks : List Task)

@[simp] theorem field?_name (x : Template) :
    x.document.field? "name" = some (.str x.name) := by
  cases x with
  | pod => exact field?_object "name" (by simp) (by decide)
  | graph => exact field?_object "name" (by simp) (by decide)

@[simp] theorem field?_metadata_pod : (pod name labels container).document.field? "metadata" =
    labels.map fun ls => (metadataToApi ls).document :=
  field?_object_option "metadata" (by simp) (by decide) rfl (by simp [metadataToApi])

@[simp] theorem field?_container_pod : (pod name labels container).document.field? "container" =
    some container.document :=
  field?_object "container" (by simp) (by decide)

@[simp] theorem field?_dag_pod : (pod name labels container).document.field? "dag" = none :=
  field?_object "dag" (by simp) (by decide)

@[simp] theorem field?_dag_graph : (graph name tasks).document.field? "dag" =
    some (dagTemplate.object [("tasks", .list (tasks.map Task.toApi))]).document :=
  field?_object "dag" (by simp) (by decide)

@[simp] theorem field?_tasks_graph :
    (dagTemplate.object [("tasks", .list (tasks.map Task.toApi))]).document.field? "tasks" =
      some (.arr (tasks.map Task.document)) :=
  field?_object_list "tasks" (by simp) (by decide) rfl

end Template

@[simp] theorem field?_labels (labels : Bindings) :
    (metadataToApi labels).document.field? "labels" =
      some (.obj (labels.entries.map fun e => (e.1, .str e.2))) := by
  rw [metadataToApi, field?_object "labels" (by simp) (by decide)]
  change some (ofBindings labels).document = _
  rw [document_ofBindings]

/-- The templates of the document of a workflow. -/
def templatesOf (document : Json) : Option (List Json) := do
  (← (← document.field? "spec").field? "templates").items?

/-- The tasks of the document of a template that runs a graph. -/
def tasksOf (template : Json) : Option (List Json) := do
  (← (← template.field? "dag").field? "tasks").items?

@[simp] theorem templatesOf_document (w : Workflow) :
    templatesOf w.document = some (w.spec.templates.map Template.document) := by
  simp [templatesOf]

@[simp] theorem tasksOf_graph (name : String) (tasks : List Task) :
    tasksOf (Template.graph name tasks).document = some (tasks.map Task.document) := by
  simp [tasksOf]

namespace Task

variable (x : Task)

@[simp] theorem field?_name : x.document.field? "name" = some (.str x.name) :=
  field?_object "name" (by simp) (by decide)

@[simp] theorem field?_template : x.document.field? "template" = some (.str x.template) :=
  field?_object "template" (by simp) (by decide)

@[simp] theorem field?_dependencies : x.document.field? "dependencies" =
    x.dependencies.map fun ds => .arr (ds.map .str) :=
  field?_object_strings "dependencies" (by simp) (by decide) rfl

end Task

namespace PodContainer

variable (x : PodContainer)

@[simp] theorem field?_image : x.document.field? "image" = some (.str x.image) :=
  field?_object "image" (by simp) (by decide)

@[simp] theorem field?_command : x.document.field? "command" =
    x.command.map fun items => .arr (items.map .str) :=
  field?_object_strings "command" (by simp) (by decide) rfl

@[simp] theorem field?_args : x.document.field? "args" =
    x.args.map fun items => .arr (items.map .str) :=
  field?_object_strings "args" (by simp) (by decide) rfl

@[simp] theorem field?_env : x.document.field? "env" =
    x.env.map fun e => (envVarsToApi e).document :=
  field?_object_option "env" (by simp) (by decide) rfl (by simp [envVarsToApi])

@[simp] theorem field?_resources : x.document.field? "resources" =
    x.resources.map fun r => (sizingToApi r).document :=
  field?_object_option "resources" (by simp) (by decide) rfl (by simp [sizingToApi])

end PodContainer

section

variable (e : String × String) (r : ResourceSizing) (x : ResourceSize)

@[simp] theorem field?_envVar_name :
    (envVar.object [("name", .str e.1), ("value", .str e.2)]).document.field? "name" =
      some (.str e.1) :=
  field?_object "name" (by simp) (by decide)

@[simp] theorem field?_envVar_value :
    (envVar.object [("name", .str e.1), ("value", .str e.2)]).document.field? "value" =
      some (.str e.2) :=
  field?_object "value" (by simp) (by decide)

@[simp] theorem field?_requests :
    (sizingToApi r).document.field? "requests" = some (sizeToApi r.requests).document :=
  field?_object "requests" (by simp) (by decide)

@[simp] theorem field?_limits :
    (sizingToApi r).document.field? "limits" = some (sizeToApi r.limits).document :=
  field?_object "limits" (by simp) (by decide)

@[simp] theorem document_size : (sizeToApi x : ApiValue Empty).document =
    .obj [("cpu", .str x.cpu), ("memory", .str x.memory)] := by
  simp [sizeToApi]

end

end ScenarioCompiler.Workflow
