import ScenarioCompiler.Container.Basic
import ScenarioCompiler.Json.Writer
import ScenarioCompiler.Settings.Basic
import ScenarioCompiler.Text.Blank
import ScenarioCompiler.Workflow.Objects
import ScenarioCompiler.Yaml.Writer

namespace ScenarioCompiler.Workflow

def entrypointName : String := "entrypoint"

def defaultName : String := "default-workflow-"

def volumeName : String := "datadir"

/-- Seconds after which a workflow is stopped unless its run template says otherwise. -/
def defaultTimeout : Int := 28800

def volumeMounts : List VolumeMount := [
  ⟨volumeName, "/mnt/scenariorun-data", "datasetsdir"⟩,
  ⟨volumeName, "/mnt/scenariorun-parameters", "parametersdir"⟩]

/-- A solution may ask for its images to be pulled every time. -/
def imagePullPolicy (settings : PlatformSettings) (alwaysPull : Option Bool) : String :=
  if alwaysPull == some true then "Always" else settings.argo.imagePullPolicy

/-- The template that runs a container; labels are given only if there are any. -/
def podTemplate (settings : PlatformSettings) (alwaysPull : Option Bool) (c : Container) :
    Template :=
  .pod c.name (c.labels.filter (!·.isEmpty)) {
    name := "main"
    image := c.image
    imagePullPolicy := imagePullPolicy settings alwaysPull
    command := c.entrypoint.map ([·])
    args := c.runArgs
    env := c.envVars
    volumeMounts
    resources := c.runSizing }

/-- The task of a container; it has no dependencies unless it waits for another container. -/
def task (c : Container) : Task where
  name := c.name
  template := c.name
  dependencies := if c.waitsFor.isEmpty then none else some c.waitsFor

/-- Pods run on Linux, in the pool of the label or else in the compute tier. -/
def nodeSelector (settings : PlatformSettings) (nodeLabel : Option String) : Bindings :=
  let linux := Bindings.ofEntries [("kubernetes.io/os", "linux")]
  match nodeLabel with
  | some label => linux.put settings.argo.workflows.nodePoolLabel label
  | none => linux.put "cosmotech.com/tier" "compute"

def volumeClaim (settings : PlatformSettings) : VolumeClaim where
  name := volumeName
  accessModes := settings.argo.workflows.accessModes
  storageClassName := settings.argo.workflows.storageClass.filter (!Text.isBlankText ·)
  requests := settings.argo.workflows.requests

/-- The names of pull secrets that are not blank, if there are any. -/
def pullSecrets (settings : PlatformSettings) : Option (List String) :=
  let secrets := (settings.argo.imagePullSecrets.getD []).filter (!Text.isBlankText ·)
  if secrets.isEmpty then none else some secrets

def specOf (settings : PlatformSettings) (start : RunStart) (timeout : Option Int)
    (alwaysPull : Option Bool) : Spec where
  entrypoint := entrypointName
  templates := start.containers.map (podTemplate settings alwaysPull) ++
    [.graph entrypointName (start.containers.map task)]
  nodeSelector := nodeSelector settings start.nodeLabel
  serviceAccountName := settings.argo.workflows.serviceAccountName
  imagePullSecrets := pullSecrets settings
  tolerations := [⟨"NoSchedule", "vendor", "cosmotech"⟩]
  volumeClaims := [volumeClaim settings]
  activeDeadlineSeconds := timeout.getD defaultTimeout

/-- The workflow that runs the containers of a scenario run: one template for each of them and one
with the graph of their tasks. -/
def ofStart (settings : PlatformSettings) (start : RunStart) (timeout : Option Int)
    (alwaysPull : Option Bool) : Workflow where
  generateName := match start.generateName with
    | some name => if name.isEmpty then defaultName else name
    | none => defaultName
  labels := start.labels
  spec := specOf settings start timeout alwaysPull

def toYaml (w : Workflow) : String := Yaml.write w.document

def toJson (w : Workflow) (indent : Option Nat) : String := Json.write indent w.document

end ScenarioCompiler.Workflow
