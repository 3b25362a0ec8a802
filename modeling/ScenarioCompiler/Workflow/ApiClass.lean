import ScenarioCompiler.Json.Pretty
import ScenarioCompiler.Text.Quoted
import ScenarioCompiler.Workflow.ApiValue

namespace ScenarioCompiler

namespace ApiValue

variable {φ : Type}

/-- The name of the class of an object. -/
def className? : ApiValue φ → Option String
  | .object name _ => some name
  | _ => none

/-- Whether a value counts as the same object as another one: both are of one class and have the
same document. The documents are looked at only if the classes are the same. -/
def sameObject (x y : ApiValue φ) : Except φ Bool := do
  if x.className? = y.className? then pure (Json.sameDocument (← x.serialize) (← y.serialize))
  else pure false

end ApiValue

/-- A kind of object: its attributes in the order of documents, each with its name there. -/
structure ApiClass where
  name : String
  attributes : List (String × String)
  required : List String := []

namespace ApiClass

variable {φ : Type}

/-- An object with some of its attributes set. -/
def object (cls : ApiClass) (values : Table (ApiValue φ)) : ApiValue φ :=
  .object cls.name (cls.attributes.map fun a => (a.2, (Table.get? values a.1).getD .null))

/-- The names that are no attributes, in alphabetical order. -/
def unexpected (cls : ApiClass) (names : List String) : List String :=
  (names.filter fun n => !(Table.names cls.attributes).contains n).mergeSort fun a b => a ≤ b

/-- What is said about names that are no attributes. -/
def unexpectedMessage (cls : ApiClass) (names : List String) : String :=
  cls.name ++ " got unexpected arguments " ++ Text.quotedList names

/-- Whether an attribute that has to be set is not. -/
def lacksRequired (cls : ApiClass) (values : Table (ApiValue φ)) : Bool :=
  cls.required.any fun name =>
    match Table.get? values name with
    | none | some .null => true
    | some _ => false

/-- Attributes that have the same name in documents. -/
def plain (names : List String) : List (String × String) := names.map fun n => (n, n)

def metadata : ApiClass where
  name := "IoArgoprojWorkflowV1alpha1Metadata"
  attributes := plain ["annotations", "labels"]

def dagTask : ApiClass where
  name := "IoArgoprojWorkflowV1alpha1DAGTask"
  attributes := plain ["name", "template", "dependencies"]

def dagTemplate : ApiClass where
  name := "IoArgoprojWorkflowV1alpha1DAGTemplate"
  attributes := plain ["tasks"]

def template : ApiClass where
  name := "IoArgoprojWorkflowV1alpha1Template"
  attributes := plain ["name", "metadata", "container", "dag"]

def workflowSpec : ApiClass where
  name := "IoArgoprojWorkflowV1alpha1WorkflowSpec"
  attributes := [("entrypoint", "entrypoint"), ("templates", "templates"),
    ("node_selector", "nodeSelector"), ("service_account_name", "serviceAccountName"),
    ("image_pull_secrets", "imagePullSecrets"), ("tolerations", "tolerations"),
    ("volume_claim_templates", "volumeClaimTemplates"),
    ("active_deadline_seconds", "activeDeadlineSeconds")]

def workflow : ApiClass where
  name := "IoArgoprojWorkflowV1alpha1Workflow"
  attributes := [("api_version", "apiVersion"), ("kind", "kind"), ("metadata", "metadata"),
    ("spec", "spec")]

/-- The classes of the workflow engine. -/
def workflowClasses : List ApiClass :=
  [metadata, dagTask, dagTemplate, template, workflowSpec, workflow]

def envVar : ApiClass where
  name := "V1EnvVar"
  attributes := [("name", "name"), ("value", "value"), ("value_from", "valueFrom")]
  required := ["name"]

def toleration : ApiClass where
  name := "V1Toleration"
  attributes := [("effect", "effect"), ("key", "key"), ("operator", "operator"),
    ("toleration_seconds", "tolerationSeconds"), ("value", "value")]

def volumeMount : ApiClass where
  name := "V1VolumeMount"
  attributes := [("mount_path", "mountPath"), ("mount_propagation", "mountPropagation"),
    ("name", "name"), ("read_only", "readOnly"), ("recursive_read_only", "recursiveReadOnly"),
    ("sub_path", "subPath"), ("sub_path_expr", "subPathExpr")]
  required := ["mount_path", "name"]

def objectMeta : ApiClass where
  name := "V1ObjectMeta"
  attributes := [("annotations", "annotations"), ("creation_timestamp", "creationTimestamp"),
    ("deletion_grace_period_seconds", "deletionGracePeriodSeconds"),
    ("deletion_timestamp", "deletionTimestamp"), ("finalizers", "finalizers"),
    ("generate_name", "generateName"), ("generation", "generation"), ("labels", "labels"),
    ("managed_fields", "managedFields"), ("name", "name"), ("namespace", "namespace"),
    ("owner_references", "ownerReferences"), ("resource_version", "resourceVersion"),
    ("self_link", "selfLink"), ("uid", "uid")]

def container : ApiClass where
  name := "V1Container"
  attributes := [("args", "args"), ("command", "command"), ("env", "env"),
    ("env_from", "envFrom"), ("image", "image"), ("image_pull_policy", "imagePullPolicy"),
    ("lifecycle", "lifecycle"), ("liveness_probe", "livenessProbe"), ("name", "name"),
    ("ports", "ports"), ("readiness_probe", "readinessProbe"),
    ("resize_policy", "resizePolicy"), ("resources", "resources"),
    ("restart_policy", "restartPolicy"), ("security_context", "securityContext"),
    ("startup_probe", "startupProbe"), ("stdin", "stdin"), ("stdin_once", "stdinOnce"),
    ("termination_message_path", "terminationMessagePath"),
    ("termination_message_policy", "terminationMessagePolicy"), ("tty", "tty"),
    ("volume_devices", "volumeDevices"), ("volume_mounts", "volumeMounts"),
    ("working_dir", "workingDir")]
  required := ["name"]

def resourceRequirements : ApiClass where
  name := "V1ResourceRequirements"
  attributes := plain ["claims", "limits", "requests"]

def localObjectReference : ApiClass where
  name := "V1LocalObjectReference"
  attributes := plain ["name"]

def volumeClaim : ApiClass where
  name := "V1PersistentVolumeClaim"
  attributes := [("api_version", "apiVersion"), ("kind", "kind"), ("metadata", "metadata"),
    ("spec", "spec"), ("status", "status")]

def volumeClaimSpec : ApiClass where
  name := "V1PersistentVolumeClaimSpec"
  attributes := [("access_modes", "accessModes"), ("data_source", "dataSource"),
    ("data_source_ref", "dataSourceRef"), ("resources", "resources"), ("selector", "selector"),
    ("storage_class_name", "storageClassName"),
    ("volume_attributes_class_name", "volumeAttributesClassName"),
    ("volume_mode", "volumeMode"), ("volume_name", "volumeName")]

def volumeResourceRequirements : ApiClass where
  name := "V1VolumeResourceRequirements"
  attributes := plain ["limits", "requests"]

/-- The classes of the cluster. -/
def clusterClasses : List ApiClass :=
  [envVar, toleration, volumeMount, objectMeta, container, resourceRequirements,
    localObjectReference, volumeClaim, volumeClaimSpec, volumeResourceRequirements]

end ApiClass

end ScenarioCompiler
