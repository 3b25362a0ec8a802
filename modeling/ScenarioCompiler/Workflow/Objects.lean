import ScenarioCompiler.Request.Basic
import ScenarioCompiler.Workflow.ApiClass

namespace ScenarioCompiler

namespace Workflow

structure VolumeMount where
  name : String
  mountPath : String
  subPath : String
  deriving DecidableEq, Repr

/-- The container of a pod. -/
structure PodContainer where
  name : String
  image : String
  imagePullPolicy : String
  command : Option (List String)
  args : Option (List String)
  env : Option Bindings
  volumeMounts : List VolumeMount
  resources : Option ResourceSizing
  deriving DecidableEq, Repr

/-- A task of the graph: it runs a template once the tasks that it depends on are done. -/
structure Task where
  name : String
  template : String
  dependencies : Option (List String)
  deriving DecidableEq, Repr

/-- A template either runs a container or the tasks of a graph. -/
inductive Template where
  | pod (name : String) (labels : Option Bindings) (container : PodContainer)
  | graph (name : String) (tasks : List Task)
  deriving DecidableEq, Repr

structure Toleration where
  effect : String
  key : String
  value : String
  deriving DecidableEq, Repr

/-- A volume that the workflow claims for the time of its run. -/
structure VolumeClaim where
  name : String
  accessModes : List String
  storageClassName : Option String
  requests : Bindings
  deriving DecidableEq, Repr

structure Spec where
  entrypoint : String
  templates : List Template
  nodeSelector : Bindings
  serviceAccountName : Option String
  imagePullSecrets : Option (List String)
  tolerations : List Toleration
  volumeClaims : List VolumeClaim
  activeDeadlineSeconds : Int
  deriving DecidableEq, Repr

end Workflow

/-- A run of a graph of containers on the cluster. -/
structure Workflow where
  generateName : String
  labels : Option Bindings
  spec : Workflow.Spec
  deriving DecidableEq, Repr

namespace Workflow

open ApiValue

variable {φ : Type}

def VolumeMount.toApi (x : VolumeMount) : ApiValue φ := ApiClass.volumeMount.object [
  ("name", .str x.name), ("mount_path", .str x.mountPath), ("sub_path", .str x.subPath)]

def envVarsToApi (env : Bindings) : ApiValue φ :=
  .list (env.entries.map fun e =>
    ApiClass.envVar.object [("name", .str e.1), ("value", .str e.2)])

def sizeToApi (x : ResourceSize) : ApiValue φ :=
  .mapping [("cpu", .str x.cpu), ("memory", .str x.memory)]

def sizingToApi (x : ResourceSizing) : ApiValue φ := ApiClass.resourceRequirements.object [
  ("requests", sizeToApi x.requests), ("limits", sizeToApi x.limits)]

def PodContainer.toApi (x : PodContainer) : ApiValue φ := ApiClass.container.object [
  ("name", .str x.name),
  ("image", .str x.image),
  ("image_pull_policy", .str x.imagePullPolicy),
  ("command", ofOption ofStrings x.command),
  ("args", ofOption ofStrings x.args),
  ("env", ofOption envVarsToApi x.env),
  ("volume_mounts", .list (x.volumeMounts.map VolumeMount.toApi)),
  ("resources", ofOption sizingToApi x.resources)]

def Task.toApi (x : Task) : ApiValue φ := ApiClass.dagTask.object [
  ("name", .str x.name),
  ("template", .str x.template),
  ("dependencies", ofOption ofStrings x.dependencies)]

def metadataToApi (labels : Bindings) : ApiValue φ :=
  ApiClass.metadata.object [("labels", ofBindings labels)]

def Template.toApi : Template → ApiValue φ
  | .pod name labels container => ApiClass.template.object [
      ("name", .str name),
      ("metadata", ofOption metadataToApi labels),
      ("container", container.toApi)]
  | .graph name tasks => ApiClass.template.object [
      ("name", .str name),
      ("dag", ApiClass.dagTemplate.object [("tasks", .list (tasks.map Task.toApi))])]

def Toleration.toApi (x : Toleration) : ApiValue φ := ApiClass.toleration.object [
  ("effect", .str x.effect), ("key", .str x.key), ("value", .str x.value)]

def VolumeClaim.toApi (x : VolumeClaim) : ApiValue φ := ApiClass.volumeClaim.object [
  ("metadata", ApiClass.objectMeta.object [("name", .str x.name)]),
  ("spec", ApiClass.volumeClaimSpec.object [
    ("access_modes", ofStrings x.accessModes),
    ("storage_class_name", ofOption .str x.storageClassName),
    ("resources",
      ApiClass.volumeResourceRequirements.object [("requests", ofBindings x.requests)])])]

def pullSecretToApi (name : String) : ApiValue φ :=
  ApiClass.localObjectReference.object [("name", .str name)]

def Spec.toApi (x : Spec) : ApiValue φ := ApiClass.workflowSpec.object [
  ("entrypoint", .str x.entrypoint),
  ("templates", .list (x.templates.map Template.toApi)),
  ("node_selector", ofBindings x.nodeSelector),
  ("service_account_name", ofOption .str x.serviceAccountName),
  ("image_pull_secrets", ofOption (fun s => .list (s.map pullSecretToApi)) x.imagePullSecrets),
  ("tolerations", .list (x.tolerations.map Toleration.toApi)),
  ("volume_claim_templates", .list (x.volumeClaims.map VolumeClaim.toApi)),
  ("active_deadline_seconds", .int x.activeDeadlineSeconds)]

def toApi (x : Workflow) : ApiValue φ := ApiClass.workflow.object [
  ("api_version", .str "argoproj.io/v1alpha1"),
  ("kind", .str "Workflow"),
  ("metadata", ApiClass.objectMeta.object [
    ("generate_name", .str x.generateName),
    ("labels", ofOption ofBindings x.labels)]),
  ("spec", x.spec.toApi)]

/-- The document that the workflow engine takes. -/
def document (x : Workflow) : Json := x.toApi.document

end Workflow

end ScenarioCompiler
