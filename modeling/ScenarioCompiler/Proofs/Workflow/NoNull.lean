import ScenarioCompiler.Proofs.Workflow.Serialize
import ScenarioCompiler.Workflow.Objects

namespace ScenarioCompiler.Workflow

open ApiValue

/-! The serializer drops a null only where it is a field of an object. The objects of a workflow
have nulls nowhere else. -/

theorem VolumeMount.noNull (x : VolumeMount) : (x.toApi : ApiValue Empty).document.NoNull :=
  ApiClass.noNull_object (by simp [settled_str])

theorem envVarsToApi_noNull (env : Bindings) :
    (envVarsToApi env : ApiValue Empty).document.NoNull := by
  have hitem (e : String × String) : (ApiClass.envVar.object
      [("name", .str e.1), ("value", .str e.2)] : ApiValue Empty).document.NoNull :=
    ApiClass.noNull_object (by simp [settled_str])
  exact (settled_map hitem env.entries).resolve_left (by simp)

theorem sizeToApi_noNull (x : ResourceSize) : (sizeToApi x : ApiValue Empty).document.NoNull := by
  simp [sizeToApi, Json.noNull_obj]

theorem sizingToApi_noNull (x : ResourceSizing) :
    (sizingToApi x : ApiValue Empty).document.NoNull := by
  refine ApiClass.noNull_object ?_
  simp only [List.forall_mem_cons]
  exact ⟨.inr (sizeToApi_noNull _), .inr (sizeToApi_noNull _), by simp⟩

theorem PodContainer.noNull (x : PodContainer) :
    (x.toApi : ApiValue Empty).document.NoNull := by
  have henv := settled_ofOption (fun env => .inr (envVarsToApi_noNull env)) x.env
  have hmounts := settled_map VolumeMount.noNull x.volumeMounts
  have hresources := settled_ofOption (fun r => .inr (sizingToApi_noNull r)) x.resources
  refine ApiClass.noNull_object ?_
  simp [settled_str, settled_ofOption settled_ofStrings, henv, hmounts, hresources]

theorem Task.noNull (x : Task) : (x.toApi : ApiValue Empty).document.NoNull :=
  ApiClass.noNull_object (by simp [settled_str, settled_ofOption settled_ofStrings])

theorem metadataToApi_noNull (labels : Bindings) :
    (metadataToApi labels : ApiValue Empty).document.NoNull :=
  ApiClass.noNull_object (by simp [settled_ofBindings])

theorem Template.noNull (x : Template) : (x.toApi : ApiValue Empty).document.NoNull := by
  cases x with
  | pod name labels container =>
    have hlabels := settled_ofOption (fun ls => .inr (metadataToApi_noNull ls)) labels
    have hcontainer : Settled container.toApi := .inr container.noNull
    exact ApiClass.noNull_object (by simp [settled_str, hlabels, hcontainer])
  | graph name tasks =>
    have htasks := settled_map Task.noNull tasks
    have hdag : Settled (ApiClass.dagTemplate.object [("tasks", .list (tasks.map Task.toApi))]) :=
      .inr (ApiClass.noNull_object (by simp [htasks]))
    exact ApiClass.noNull_object (by simp [settled_str, hdag])

theorem Toleration.noNull (x : Toleration) : (x.toApi : ApiValue Empty).document.NoNull :=
  ApiClass.noNull_object (by simp [settled_str])

theorem pullSecretToApi_noNull (name : String) :
    (pullSecretToApi name : ApiValue Empty).document.NoNull :=
  ApiClass.noNull_object (by simp [settled_str])

theorem VolumeClaim.noNull (x : VolumeClaim) : (x.toApi : ApiValue Empty).document.NoNull := by
  have hmetadata : Settled (ApiClass.objectMeta.object [("name", .str x.name)]) :=
    .inr (ApiClass.noNull_object (by simp [settled_str]))
  have hresources : Settled
      (ApiClass.volumeResourceRequirements.object [("requests", ofBindings x.requests)]) :=
    .inr (ApiClass.noNull_object (by simp [settled_ofBindings]))
  have hspec : Settled (ApiClass.volumeClaimSpec.object [
      ("access_modes", ofStrings x.accessModes),
      ("storage_class_name", ofOption .str x.storageClassName),
      ("resources",
        ApiClass.volumeResourceRequirements.object [("requests", ofBindings x.requests)])]) :=
    .inr (ApiClass.noNull_object
      (by simp [settled_ofStrings, settled_ofOption settled_str, hresources]))
  exact ApiClass.noNull_object (by simp [hmetadata, hspec])

theorem Spec.noNull (x : Spec) : (x.toApi : ApiValue Empty).document.NoNull := by
  have htemplates := settled_map Template.noNull x.templates
  have hsecrets := settled_ofOption (settled_map pullSecretToApi_noNull) x.imagePullSecrets
  have htolerations := settled_map Toleration.noNull x.tolerations
  have hclaims := settled_map VolumeClaim.noNull x.volumeClaims
  refine ApiClass.noNull_object ?_
  simp [settled_str, settled_int, settled_ofBindings, settled_ofOption settled_str, htemplates,
    hsecrets, htolerations, hclaims]

/-- The document of a workflow has no null in it, whatever its parts leave out. -/
theorem document_noNull (w : Workflow) : w.document.NoNull := by
  have hmetadata : Settled (ApiClass.objectMeta.object [
      ("generate_name", .str w.generateName), ("labels", ofOption ofBindings w.labels)]) :=
    .inr (ApiClass.noNull_object (by simp [settled_str, settled_ofOption settled_ofBindings]))
  have hspec : Settled w.spec.toApi := .inr w.spec.noNull
  exact ApiClass.noNull_object (by simp [settled_str, hmetadata, hspec])

end ScenarioCompiler.Workflow
