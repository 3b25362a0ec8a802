import ScenarioCompiler.Proofs.Json.Names
import ScenarioCompiler.Proofs.Workflow.Serialize
import ScenarioCompiler.Workflow.Objects

namespace ScenarioCompiler

namespace ApiClass

open ApiValue

variable {cls : ApiClass} {values : Table (ApiValue Empty)} {p : String → Prop} {n : Nat}

/-- The names that documents have for the attributes of all classes. -/
def fieldNames : List String := classes.flatMap fun cls => cls.attributes.map (·.2)

theorem names_setFields_sublist (values : Table (ApiValue Empty))
    (attributes : List (String × String)) :
    (Table.names (setFields values attributes)).Sublist (attributes.map (·.2)) := by
  induction attributes with
  | nil => exact List.Sublist.slnil
  | cons a rest ih =>
    rw [setFields, List.filterMap_cons]
    cases (Table.get? values a.1).bind set? with
    | none => exact ih.cons _
    | some x => exact ih.cons_cons _

/-- A value that is not set, or whose document a condition on its names holds for. -/
def Keyed (p : String → Prop) (n : Nat) (x : ApiValue Empty) : Prop :=
  x = null ∨ x.document.Keyed p n

theorem keyed_object (hc : cls ∈ classes) (hp : ∀ name ∈ fieldNames, p name)
    (h : ∀ entry ∈ values, Keyed p n entry.2) : (cls.object values).document.Keyed p (n + 1) := by
  rw [document_object, Json.keyed_obj]
  refine ⟨(names_nodup cls hc).sublist (names_setFields_sublist _ _), fun field hf => ?_⟩
  obtain ⟨a, ha, hv⟩ := List.mem_filterMap.1 hf
  obtain ⟨x, hx, rfl⟩ := Option.map_eq_some_iff.1 hv
  obtain ⟨y, hy, hx⟩ := Option.bind_eq_some_iff.1 hx
  have hxy := set?_eq_some.1 hx
  refine ⟨hp a.2 (List.mem_flatMap.2 ⟨cls, hc, List.mem_map_of_mem ha⟩), ?_⟩
  exact hxy.1 ▸ (h _ (Table.mem_of_get?_eq_some hy)).resolve_left hxy.2

theorem keyed_text (s : String) : Keyed p n (.str s) := .inr (Json.keyed_str s)

theorem keyed_ofOption {α : Type} {f : α → ApiValue Empty} {o : Option α}
    (h : ∀ x ∈ o, (f x).document.Keyed p n) : Keyed p n (ofOption f o) := by
  cases o with
  | none => exact .inl rfl
  | some x => exact .inr (h x rfl)

theorem keyed_list {α : Type} {f : α → ApiValue Empty} {items : List α}
    (h : ∀ x ∈ items, (f x).document.Keyed p n) :
    (ApiValue.list (items.map f)).document.Keyed p (n + 1) := by
  rw [document_list, Json.keyed_arr, List.map_map]
  intro item hi
  obtain ⟨x, hx, rfl⟩ := List.mem_map.1 hi
  exact h x hx

theorem keyed_ofStrings (items : List String) :
    (ofStrings items : ApiValue Empty).document.Keyed p (n + 1) :=
  keyed_list fun s _ => Json.keyed_str s

theorem keyed_ofBindings {b : Bindings} (h : ∀ name ∈ b.names, p name) :
    (ofBindings b : ApiValue Empty).document.Keyed p (n + 1) := by
  rw [document_ofBindings, Json.keyed_obj, Table.names, List.map_map]
  refine ⟨b.distinct, fun field hf => ?_⟩
  obtain ⟨e, he, rfl⟩ := List.mem_map.1 hf
  exact ⟨h e.1 (List.mem_map_of_mem he), Json.keyed_str e.2⟩

end ApiClass

namespace Workflow

open ApiClass ApiValue

/-- The names that documents of workflows have in any case. -/
def fixedNames : List String := ["cpu", "memory"] ++ ApiClass.fieldNames

def Template.labelNames : Template → List String
  | .pod _ labels _ => (labels.map Bindings.names).getD []
  | .graph .. => []

def Spec.names (x : Spec) : List String :=
  x.templates.flatMap Template.labelNames ++ x.nodeSelector.names ++
    x.volumeClaims.flatMap (·.requests.names)

/-- The names in the document of a workflow that are not fixed. -/
def names (w : Workflow) : List String := (w.labels.map Bindings.names).getD [] ++ w.spec.names

attribute [local simp] classes workflowClasses clusterClasses

section Fixed

variable {p : String → Prop} {n : Nat} (hp : ∀ name ∈ fixedNames, p name)

include hp

theorem fieldNames_of_fixedNames : ∀ name ∈ ApiClass.fieldNames, p name :=
  fun name hn => hp name (List.mem_append_right _ hn)

theorem VolumeMount.keyed (x : VolumeMount) :
    (x.toApi : ApiValue Empty).document.Keyed p (n + 1) :=
  keyed_object (by simp) (fieldNames_of_fixedNames hp) (by simp [keyed_text])

theorem envVarsToApi_keyed (env : Bindings) :
    (envVarsToApi env : ApiValue Empty).document.Keyed p (n + 2) :=
  keyed_list fun _ _ =>
    keyed_object (by simp) (fieldNames_of_fixedNames hp) (by simp [keyed_text])

theorem sizeToApi_keyed (x : ResourceSize) :
    (sizeToApi x : ApiValue Empty).document.Keyed p (n + 1) := by
  have hcpu : p "cpu" := hp _ List.mem_cons_self
  have hmemory : p "memory" := hp _ (List.mem_cons_of_mem _ List.mem_cons_self)
  simp [sizeToApi, Json.keyed_obj, Table.names, hcpu, hmemory]

theorem sizingToApi_keyed (x : ResourceSizing) :
    (sizingToApi x : ApiValue Empty).document.Keyed p (n + 2) := by
  refine keyed_object (by simp) (fieldNames_of_fixedNames hp) ?_
  simp only [List.forall_mem_cons]
  exact ⟨.inr (sizeToApi_keyed hp _), .inr (sizeToApi_keyed hp _), by simp⟩

theorem PodContainer.keyed (x : PodContainer) :
    (x.toApi : ApiValue Empty).document.Keyed p (n + 3) := by
  have hstrings (o : Option (List String)) : ApiClass.Keyed p (n + 2) (ofOption ofStrings o) :=
    keyed_ofOption fun items _ => keyed_ofStrings items
  have henv : ApiClass.Keyed p (n + 2) (ofOption envVarsToApi x.env) :=
    keyed_ofOption fun env _ => envVarsToApi_keyed hp env
  have hmounts : ApiClass.Keyed p (n + 2) (.list (x.volumeMounts.map VolumeMount.toApi)) :=
    .inr (keyed_list fun mount _ => mount.keyed hp)
  have hresources : ApiClass.Keyed p (n + 2) (ofOption sizingToApi x.resources) :=
    keyed_ofOption fun r _ => sizingToApi_keyed hp r
  refine keyed_object (by simp) (fieldNames_of_fixedNames hp) ?_
  simp [keyed_text, hstrings, henv, hmounts, hresources]

theorem Task.keyed (x : Task) : (x.toApi : ApiValue Empty).document.Keyed p (n + 2) := by
  have hdependencies : ApiClass.Keyed p (n + 1) (ofOption ofStrings x.dependencies) :=
    keyed_ofOption fun items _ => keyed_ofStrings items
  exact keyed_object (by simp) (fieldNames_of_fixedNames hp) (by simp [keyed_text, hdependencies])

theorem metadataToApi_keyed {labels : Bindings} (h : ∀ name ∈ labels.names, p name) :
    (metadataToApi labels : ApiValue Empty).document.Keyed p (n + 2) := by
  have hlabels : ApiClass.Keyed p (n + 1) (ofBindings labels) := .inr (keyed_ofBindings h)
  exact keyed_object (by simp) (fieldNames_of_fixedNames hp) (by simp [hlabels])

theorem Template.keyed {x : Template} (h : ∀ name ∈ x.labelNames, p name) :
    (x.toApi : ApiValue Empty).document.Keyed p (n + 5) := by
  cases x with
  | pod name labels container =>
    have hlabels : ApiClass.Keyed p (n + 4) (ofOption metadataToApi labels) :=
      keyed_ofOption fun ls hls => metadataToApi_keyed hp fun name hn =>
        h name (by simpa [labelNames, Option.mem_def.1 hls])
    have hcontainer : ApiClass.Keyed p (n + 4) container.toApi := .inr (container.keyed hp)
    exact keyed_object (by simp) (fieldNames_of_fixedNames hp)
      (by simp [keyed_text, hlabels, hcontainer])
  | graph name tasks =>
    have htasks : ApiClass.Keyed p (n + 3) (.list (tasks.map Task.toApi)) :=
      .inr (keyed_list fun task _ => task.keyed hp)
    have hdag : ApiClass.Keyed p (n + 4)
        (dagTemplate.object [("tasks", .list (tasks.map Task.toApi))]) :=
      .inr (keyed_object (by simp) (fieldNames_of_fixedNames hp) (by simp [htasks]))
    exact keyed_object (by simp) (fieldNames_of_fixedNames hp) (by simp [keyed_text, hdag])

theorem Toleration.keyed (x : Toleration) :
    (x.toApi : ApiValue Empty).document.Keyed p (n + 1) :=
  keyed_object (by simp) (fieldNames_of_fixedNames hp) (by simp [keyed_text])

theorem pullSecretToApi_keyed (name : String) :
    (pullSecretToApi name : ApiValue Empty).document.Keyed p (n + 1) :=
  keyed_object (by simp) (fieldNames_of_fixedNames hp) (by simp [keyed_text])

theorem VolumeClaim.keyed {x : VolumeClaim} (h : ∀ name ∈ x.requests.names, p name) :
    (x.toApi : ApiValue Empty).document.Keyed p (n + 4) := by
  have hobject {cls : ApiClass} {values : Table (ApiValue Empty)} {n : Nat} (hc : cls ∈ classes)
      (hv : ∀ entry ∈ values, ApiClass.Keyed p n entry.2) :
      ApiClass.Keyed p (n + 1) (cls.object values) :=
    .inr (keyed_object hc (fieldNames_of_fixedNames hp) hv)
  have hrequests : ApiClass.Keyed p (n + 1) (ofBindings x.requests) := .inr (keyed_ofBindings h)
  have hmodes : ApiClass.Keyed p (n + 2) (ofStrings x.accessModes) := .inr (keyed_ofStrings _)
  have hstorage : ApiClass.Keyed p (n + 2) (ofOption .str x.storageClassName) :=
    keyed_ofOption fun s _ => Json.keyed_str s
  have hmetadata : ApiClass.Keyed p (n + 3) (objectMeta.object [("name", .str x.name)]) :=
    hobject (by simp) (by simp [keyed_text])
  have hresources : ApiClass.Keyed p (n + 2)
      (volumeResourceRequirements.object [("requests", ofBindings x.requests)]) :=
    hobject (by simp) (by simp [hrequests])
  refine keyed_object (by simp) (fieldNames_of_fixedNames hp) ?_
  simp only [List.forall_mem_cons]
  exact ⟨hmetadata, hobject (by simp) (by simp [hmodes, hstorage, hresources]), by simp⟩

theorem Spec.keyed {x : Spec} (h : ∀ name ∈ x.names, p name)
    (ht : x.activeDeadlineSeconds.natAbs < 10 ^ Json.digitLimit) :
    (x.toApi : ApiValue Empty).document.Keyed p (n + 7) := by
  simp only [names, List.mem_append, or_imp, forall_and, List.mem_flatMap, forall_exists_index,
    and_imp] at h
  obtain ⟨⟨hlabels, hselector⟩, hclaims⟩ := h
  have htemplates : ApiClass.Keyed p (n + 6) (.list (x.templates.map Template.toApi)) :=
    .inr (keyed_list fun t hm => t.keyed hp fun name hn => hlabels name t hm hn)
  have hnodes : ApiClass.Keyed p (n + 6) (ofBindings x.nodeSelector) :=
    .inr (keyed_ofBindings hselector)
  have haccount : ApiClass.Keyed p (n + 6) (ofOption .str x.serviceAccountName) :=
    keyed_ofOption fun s _ => Json.keyed_str s
  have hsecrets : ApiClass.Keyed p (n + 6)
      (ofOption (fun s : List String => .list (s.map pullSecretToApi)) x.imagePullSecrets) :=
    keyed_ofOption fun s _ => keyed_list fun name _ => pullSecretToApi_keyed hp name
  have htolerations : ApiClass.Keyed p (n + 6) (.list (x.tolerations.map Toleration.toApi)) :=
    .inr (keyed_list fun t _ => t.keyed hp)
  have hvolumes : ApiClass.Keyed p (n + 6) (.list (x.volumeClaims.map VolumeClaim.toApi)) :=
    .inr (keyed_list fun claim hm => claim.keyed hp fun name hn => hclaims name claim hm hn)
  have hdeadline : ApiClass.Keyed p (n + 6) (.int x.activeDeadlineSeconds) :=
    .inr (Json.keyed_int.2 ht)
  refine keyed_object (by simp) (fieldNames_of_fixedNames hp) ?_
  simp [keyed_text, htemplates, hnodes, haccount, hsecrets, htolerations, hvolumes, hdeadline]

/-- What holds of the fixed names and of those that a workflow brings holds of all names in its
document, which its text determines if its timeout has a text. -/
theorem document_keyed {w : Workflow} (h : ∀ name ∈ w.names, p name)
    (ht : w.spec.activeDeadlineSeconds.natAbs < 10 ^ Json.digitLimit) : w.document.Keyed p 8 := by
  simp only [names, List.mem_append, or_imp, forall_and] at h
  have hlabels : ApiClass.Keyed p 6 (ofOption ofBindings w.labels) :=
    keyed_ofOption fun ls hls => keyed_ofBindings fun name hn =>
      h.1 name (by simpa [Option.mem_def.1 hls])
  have hmetadata : ApiClass.Keyed p 7 (objectMeta.object [
      ("generate_name", .str w.generateName), ("labels", ofOption ofBindings w.labels)]) :=
    .inr (keyed_object (by simp) (fieldNames_of_fixedNames hp) (by simp [keyed_text, hlabels]))
  have hspec : ApiClass.Keyed p 7 w.spec.toApi := .inr (w.spec.keyed hp h.2 ht)
  exact keyed_object (by simp) (fieldNames_of_fixedNames hp)
    (by simp [keyed_text, hmetadata, hspec])

end Fixed

end Workflow

end ScenarioCompiler
