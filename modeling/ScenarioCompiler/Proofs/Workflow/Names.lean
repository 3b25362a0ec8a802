import ScenarioCompiler.Proofs.Workflow.Document
import ScenarioCompiler.Proofs.Workflow.Keyed

namespace ScenarioCompiler

namespace Json

variable {document item value : Json} {items : List Json} {key name : String}

theorem mem_allNames_of_field? (hf : document.field? key = some value)
    (hn : name ∈ value.allNames) : name ∈ document.allNames := by
  cases document with
  | obj fields => exact mem_fieldNames.2 ⟨(key, value), Table.mem_of_get?_eq_some hf, .inr hn⟩
  | _ => cases hf

theorem mem_allNames_of_item (hi : item ∈ items) (hn : name ∈ item.allNames) :
    name ∈ (arr items).allNames :=
  mem_itemNames.2 ⟨item, hi, hn⟩

end Json

namespace Workflow

open ApiClass ApiValue
open Json (mem_allNames_of_field? mem_allNames_of_item mem_fieldNames)

attribute [local simp] classes workflowClasses clusterClasses

variable {name : String}

theorem mem_allNames_ofBindings {b : Bindings} (hn : name ∈ b.names) :
    name ∈ (ofBindings b : ApiValue Empty).document.allNames := by
  obtain ⟨e, he, rfl⟩ := List.mem_map.1 hn
  rw [document_ofBindings]
  exact mem_fieldNames.2 ⟨(e.1, .str e.2), List.mem_map.2 ⟨e, he, rfl⟩, .inl rfl⟩

theorem Template.mem_allNames {x : Template} (hn : name ∈ x.labelNames) :
    name ∈ x.document.allNames := by
  match x, hn with
  | .pod template (some labels) container, hn =>
    have hmetadata := field?_metadata_pod template (some labels) container
    have hlabels : (metadataToApi labels).document.field? "labels" =
        some (ofBindings labels : ApiValue Empty).document :=
      field?_object "labels" (by simp) (by decide)
    exact mem_allNames_of_field? hmetadata
      (mem_allNames_of_field? hlabels (mem_allNames_ofBindings hn))

theorem VolumeClaim.mem_allNames {x : VolumeClaim} (hn : name ∈ x.requests.names) :
    name ∈ (x.toApi : ApiValue Empty).document.allNames := by
  let resources : ApiValue Empty :=
    volumeResourceRequirements.object [("requests", ofBindings x.requests)]
  let spec : ApiValue Empty := volumeClaimSpec.object [("access_modes", ofStrings x.accessModes),
    ("storage_class_name", ofOption .str x.storageClassName), ("resources", resources)]
  have hspec : x.toApi.document.field? "spec" = some spec.document :=
    field?_object "spec" (by simp) (by decide)
  have hresources : spec.document.field? "resources" = some resources.document :=
    field?_object "resources" (by simp) (by decide)
  have hrequests : resources.document.field? "requests" = some (ofBindings x.requests).document :=
    field?_object "requests" (by simp) (by decide)
  exact mem_allNames_of_field? hspec (mem_allNames_of_field? hresources
    (mem_allNames_of_field? hrequests (mem_allNames_ofBindings hn)))

theorem Spec.mem_allNames {x : Spec} (hn : name ∈ x.names) :
    name ∈ (x.toApi : ApiValue Empty).document.allNames := by
  have hselector : x.toApi.document.field? "nodeSelector" =
      some (ofBindings x.nodeSelector).document :=
    field?_object "node_selector" (by simp) (by decide)
  have hclaims : x.toApi.document.field? "volumeClaimTemplates" =
      some (.arr (x.volumeClaims.map fun claim => claim.toApi.document)) :=
    field?_object_list "volume_claim_templates" (by simp) (by decide) rfl
  simp only [Spec.names, List.mem_append, List.mem_flatMap] at hn
  obtain (⟨template, ht, hn⟩ | hn) | ⟨claim, hc, hn⟩ := hn
  · exact mem_allNames_of_field? x.field?_templates
      (mem_allNames_of_item (List.mem_map_of_mem ht) (template.mem_allNames hn))
  · exact mem_allNames_of_field? hselector (mem_allNames_ofBindings hn)
  · exact mem_allNames_of_field? hclaims
      (mem_allNames_of_item (List.mem_map.2 ⟨claim, hc, rfl⟩) (claim.mem_allNames hn))

/-- Each name that a workflow brings stands in its document. -/
theorem mem_allNames {w : Workflow} (hn : name ∈ w.names) : name ∈ w.document.allNames := by
  rcases List.mem_append.1 hn with hn | hn
  · let metadata : ApiValue Empty := objectMeta.object [
      ("generate_name", .str w.generateName), ("labels", ofOption ofBindings w.labels)]
    have hmetadata : w.document.field? "metadata" = some metadata.document :=
      field?_object "metadata" (by simp) (by decide)
    have hlabels : metadata.document.field? "labels" =
        w.labels.map fun labels => (ofBindings labels).document :=
      field?_object_option "labels" (by simp) (by decide) rfl (by simp [ofBindings])
    cases hw : w.labels with
    | none => simp [hw] at hn
    | some labels =>
      rw [hw] at hn hlabels
      exact mem_allNames_of_field? hmetadata
        (mem_allNames_of_field? hlabels (mem_allNames_ofBindings hn))
  · exact mem_allNames_of_field? w.field?_spec (w.spec.mem_allNames hn)

/-- What holds of the fixed names holds of all names in a document if and only if it holds of those
that the workflow brings. -/
theorem document_keyed_iff {p : String → Prop} (hp : ∀ name ∈ fixedNames, p name) {w : Workflow}
    (ht : w.spec.activeDeadlineSeconds.natAbs < 10 ^ Json.digitLimit) :
    w.document.Keyed p 8 ↔ ∀ name ∈ w.names, p name :=
  ⟨fun h name hn => h.names name (mem_allNames hn), fun h => document_keyed hp h ht⟩

end Workflow

end ScenarioCompiler
