import ScenarioCompiler.Proofs.Pipeline.WellFormed
import ScenarioCompiler.Proofs.Workflow.Document
import ScenarioCompiler.Proofs.Workflow.NoNull

namespace ScenarioCompiler

theorem filter_eq_singleton {α : Type} {name : α → String} {items : List α} {x : α}
    (hn : (items.map name).Nodup) (hx : x ∈ items) :
    (items.filter fun y => name y == name x) = [x] := by
  obtain ⟨before, after, rfl⟩ := List.append_of_mem hx
  rw [List.map_append, List.map_cons] at hn
  obtain ⟨hnew, -⟩ := List.nodup_cons.1 (List.nodup_middle.1 hn)
  rw [← List.map_append] at hnew
  have hother (y : α) (hy : y ∈ before ++ after) : ¬ (name y == name x) = true := by
    rw [beq_iff_eq]
    exact fun he => hnew (he ▸ List.mem_map_of_mem hy)
  have hbefore := List.filter_eq_nil_iff.2 fun y hy => hother y (List.mem_append_left _ hy)
  have hafter := List.filter_eq_nil_iff.2 fun y hy => hother y (List.mem_append_right _ hy)
  rw [List.filter_append, List.filter_cons_of_pos (by simp), hbefore, hafter, List.nil_append]

namespace Workflow

open DependencyGraph

def entrypointOf (document : Json) : Option String := do
  (← document.field? "spec").textField? "entrypoint"

/-- The templates of a name. -/
def named (name : String) (templates : List Json) : List Json :=
  templates.filter fun t => t.textField? "name" == some name

def withGraph (templates : List Json) : List Json :=
  templates.filter fun t => (t.field? "dag").isSome

/-- What a task waits for. -/
def dependenciesOf (task : Json) : List Json :=
  ((task.field? "dependencies").bind Json.items?).getD []

/-- What a document tells about the order of execution: its templates, the one of them that the
run starts with, and the tasks of this one. -/
structure Layout where
  entrypoint : String
  templates : List Json
  root : Json
  tasks : List Json

namespace Layout

def IsOf (layout : Layout) (document : Json) : Prop :=
  entrypointOf document = some layout.entrypoint ∧
    templatesOf document = some layout.templates ∧ tasksOf layout.root = some layout.tasks

/-- The task has the name of the container and runs the template made for the container. -/
def Runs (layout : Layout) (settings : PlatformSettings) (alwaysPull : Option Bool)
    (c : Container) (task : Json) : Prop :=
  task.textField? "name" = some c.name ∧ ∃ name, task.textField? "template" = some name ∧
    named name layout.templates = [(podTemplate settings alwaysPull c).document]

/-- Every name stands for one template, and the tasks are the containers in their order with the
dependencies of their graph. -/
structure Consistent (layout : Layout) (settings : PlatformSettings) (alwaysPull : Option Bool)
    (containers : List Container) : Prop where
  names_nodup : ∃ names : List String,
    layout.templates.map (·.textField? "name") = names.map some ∧ names.Nodup
  entrypoint_unique : named layout.entrypoint layout.templates = [layout.root]
  graph_unique : withGraph layout.templates = [layout.root]
  tasks_run : List.Forall₂ (layout.Runs settings alwaysPull) containers layout.tasks
  dependencies_earlier : ∀ before task after, layout.tasks = before ++ task :: after →
    ∀ d ∈ dependenciesOf task, ∃ earlier ∈ before, earlier.field? "name" = some d
  root_absent : ∀ task ∈ layout.tasks, task.textField? "name" ≠ some rootDependency ∧
    .str rootDependency ∉ dependenciesOf task
  dependencies_nonempty : ∀ task ∈ layout.tasks, ∀ x, task.field? "dependencies" = some x →
    ∃ d rest, x = .arr (d :: rest)
  edges_iff : ∃ graph, DependencyGraph.of containers = .ok graph ∧
    ∀ producer consumer, (producer, consumer) ∈ graph.edges ↔ ∃ task ∈ layout.tasks,
      task.textField? "name" = some consumer ∧ .str producer ∈ dependenciesOf task

end Layout

/-! ### What is written -/

variable {settings : PlatformSettings} {alwaysPull : Option Bool} {containers : List Container}

theorem named_document (name : String) (templates : List Template) :
    named name (templates.map Template.document) =
      (templates.filter (·.name == name)).map Template.document := by
  rw [named, List.filter_map]
  congr 2
  funext x
  simp [Json.textField?]

theorem dependenciesOf_task (c : Container) :
    dependenciesOf (task c).document = c.waitsFor.map .str := by
  rw [dependenciesOf, Task.field?_dependencies, task]
  cases c.waitsFor <;> simp

theorem str_mem_dependenciesOf_task {c : Container} {d : String} :
    .str d ∈ dependenciesOf (task c).document ↔ d ∈ c.waitsFor := by
  rw [dependenciesOf_task]
  simp

theorem eq_arr_cons_of_dependencies {c : Container} {x : Json}
    (h : (task c).document.field? "dependencies" = some x) : ∃ d rest, x = .arr (d :: rest) := by
  rw [Task.field?_dependencies, task] at h
  cases hc : c.waitsFor with
  | nil => simp [hc] at h
  | cons d rest => exact ⟨.str d, rest.map .str, by simpa [hc] using h.symm⟩

theorem edge_iff_exists_task {producer consumer : String} :
    Edge containers producer consumer ↔
      ∃ x ∈ containers.map fun c => (task c).document,
        x.textField? "name" = some consumer ∧ .str producer ∈ dependenciesOf x := by
  constructor
  · rintro ⟨c, hc, rfl, hp⟩
    exact ⟨_, List.mem_map_of_mem hc, by simp [Json.textField?, task],
      str_mem_dependenciesOf_task.2 hp⟩
  · rintro ⟨_, hx, hn, hp⟩
    obtain ⟨c, hc, rfl⟩ := List.mem_map.1 hx
    exact ⟨c, hc, by simpa [Json.textField?, task] using hn, str_mem_dependenciesOf_task.1 hp⟩

/-- A task comes after those that it depends on if its container comes after those that it waits
for. -/
theorem exists_earlier_of_split (hw : WellOrdered containers) {before after : List Json} {x : Json}
    (he : (containers.map fun c => (task c).document) = before ++ x :: after) {d : Json}
    (hd : d ∈ dependenciesOf x) : ∃ earlier ∈ before, earlier.field? "name" = some d := by
  obtain ⟨first, rest, rfl, rfl, hrest⟩ := List.map_eq_append_iff.1 he
  obtain ⟨c, last, rfl, rfl, -⟩ := List.map_eq_cons_iff.1 hrest
  rw [dependenciesOf_task] at hd
  obtain ⟨name, hname, rfl⟩ := List.mem_map.1 hd
  have hm : name ∈ first.map (·.name) := by simpa using hw.waitsWithin.mem_of_split hname
  obtain ⟨p, hp, rfl⟩ := List.mem_map.1 hm
  exact ⟨_, List.mem_map_of_mem hp, by simp [task]⟩

variable {start : RunStart} {timeout : Option Int}

/-- The layout of the document of a workflow. -/
def layoutOf (settings : PlatformSettings) (alwaysPull : Option Bool) (start : RunStart)
    (timeout : Option Int) : Layout where
  entrypoint := entrypointName
  templates := (specOf settings start timeout alwaysPull).templates.map Template.document
  root := (Template.graph entrypointName (start.containers.map task)).document
  tasks := start.containers.map fun c => (task c).document

theorem layoutOf_isOf : (layoutOf settings alwaysPull start timeout).IsOf
    (ofStart settings start timeout alwaysPull).document := by
  refine ⟨?_, ?_, ?_⟩
  · simp [entrypointOf, Json.textField?, ofStart, specOf, layoutOf]
  · simp [ofStart, layoutOf]
  · simp [layoutOf]

/-- No container has the name of the entrypoint, so the names of templates are distinct. -/
theorem template_names_nodup (hf : Pipeline.WellFormed start.containers) :
    ((specOf settings start timeout alwaysPull).templates.map Template.name).Nodup := by
  have hnames : (specOf settings start timeout alwaysPull).templates.map Template.name =
      start.containers.map (·.name) ++ [entrypointName] := by
    simp [specOf, Function.comp_def, podTemplate, Template.name]
  rw [hnames]
  refine List.nodup_append.2 ⟨hf.names_nodup, List.nodup_singleton _, fun a ha b hb he => ?_⟩
  exact hf.entrypoint_notMem (List.mem_singleton.1 hb ▸ he ▸ ha)

theorem named_name (hf : Pipeline.WellFormed start.containers) {t : Template}
    (ht : t ∈ (specOf settings start timeout alwaysPull).templates) :
    named t.name (layoutOf settings alwaysPull start timeout).templates = [t.document] := by
  rw [layoutOf, named_document, filter_eq_singleton (template_names_nodup hf) ht]
  rfl

theorem runs_task (hf : Pipeline.WellFormed start.containers) {c : Container}
    (hc : c ∈ start.containers) :
    (layoutOf settings alwaysPull start timeout).Runs settings alwaysPull c (task c).document := by
  have ht : podTemplate settings alwaysPull c ∈
      (specOf settings start timeout alwaysPull).templates :=
    List.mem_append_left _ (List.mem_map_of_mem hc)
  exact ⟨by simp [Json.textField?, task], c.name, by simp [Json.textField?, task],
    named_name hf ht⟩

theorem withGraph_templates :
    withGraph (layoutOf settings alwaysPull start timeout).templates =
      [(layoutOf settings alwaysPull start timeout).root] := by
  have hpods : ((start.containers.map (podTemplate settings alwaysPull)).map
      Template.document).filter (fun t => (t.field? "dag").isSome) = [] := by
    rw [List.map_map, List.filter_eq_nil_iff]
    intro t ht
    obtain ⟨c, -, rfl⟩ := List.mem_map.1 ht
    simp [podTemplate]
  simp only [layoutOf, specOf, withGraph, List.map_append, List.filter_append, hpods]
  simp

theorem layoutOf_consistent (hf : Pipeline.WellFormed start.containers)
    (hw : WellOrdered start.containers) :
    (layoutOf settings alwaysPull start timeout).Consistent settings alwaysPull
      start.containers where
  names_nodup := by
    have hnames : (layoutOf settings alwaysPull start timeout).templates.map
        (·.textField? "name") =
        ((specOf settings start timeout alwaysPull).templates.map Template.name).map some := by
      simp [layoutOf, Json.textField?, Function.comp_def]
    exact ⟨_, hnames, template_names_nodup hf⟩
  entrypoint_unique := named_name hf (List.mem_append_right _ (List.mem_singleton_self _))
  graph_unique := withGraph_templates
  tasks_run := List.forall₂_map_right_iff.2 (List.forall₂_same.2 fun _ hc => runs_task hf hc)
  dependencies_earlier _ _ _ he _ hd := exists_earlier_of_split hw he hd
  root_absent := by
    intro x hx
    obtain ⟨c, hc, rfl⟩ := List.mem_map.1 hx
    have hname : (task c).document.textField? "name" = some c.name := by
      simp [Json.textField?, task]
    refine ⟨fun h => hf.root_notMem ?_, fun hm => ?_⟩
    · exact Option.some.inj (hname.symm.trans h) ▸ List.mem_map_of_mem hc
    · exact (Container.mem_waitsFor.1 (str_mem_dependenciesOf_task.1 hm)).2 rfl
  dependencies_nonempty := by
    intro x hx value hv
    obtain ⟨c, -, rfl⟩ := List.mem_map.1 hx
    exact eq_arr_cons_of_dependencies hv
  edges_iff := by
    obtain ⟨graph, hg⟩ := exists_of_eq_ok.2 hw
    exact ⟨graph, hg, fun _ _ => (hw.mem_edges hg).trans edge_iff_exists_task⟩

/-- A compiled run is lowered into the document of a consistent graph, with no null in it. -/
theorem compiled_document_consistent {compiling : PlatformSettings}
    {checker : EventHubChecker} {request : RunRequest} {freshId : String} {start : RunStart}
    (h : (Pipeline.start compiling checker request freshId).outcome = .ok start)
    (settings : PlatformSettings) (timeout : Option Int) (alwaysPull : Option Bool) :
    ∃ layout : Layout, layout.IsOf (ofStart settings start timeout alwaysPull).document ∧
      layout.Consistent settings alwaysPull start.containers ∧
      (ofStart settings start timeout alwaysPull).document.NoNull := by
  have hc : ∃ id, (Pipeline.containers compiling checker request id).outcome =
      .ok start.containers := by
    simp only [Pipeline.start, Traced.outcome_bind, Traced.outcome_liftM, Traced.outcome_pure,
      bind_eq_ok, Except.ok.injEq] at h
    obtain ⟨_, -, _, hc, rfl⟩ := h
    exact ⟨_, hc⟩
  obtain ⟨id, hc⟩ := hc
  obtain ⟨template, linked, -, hl, he⟩ := Pipeline.containers_eq_ok.1 hc
  have hf := Pipeline.wellFormed_arrange hl
  have hw := Pipeline.Input.wellOrdered_arrange hl
  rw [he] at hf hw
  exact ⟨_, layoutOf_isOf, layoutOf_consistent hf hw, document_noNull _⟩

theorem smallRun_document_consistent : ∃ start,
    (Pipeline.start Pipeline.smallPlatform none (Pipeline.smallRequest (some true)) "id").outcome =
      .ok start ∧ start.containers.length = 4 ∧
    ∃ layout : Layout,
      layout.IsOf (ofStart Pipeline.smallPlatform start none (some true)).document ∧
      layout.Consistent Pipeline.smallPlatform (some true) start.containers ∧
      (ofStart Pipeline.smallPlatform start none (some true)).document.NoNull := by
  have h : (Pipeline.start Pipeline.smallPlatform none (Pipeline.smallRequest (some true))
      "id").outcome = .ok _ := rfl
  exact ⟨_, h, rfl, compiled_document_consistent h Pipeline.smallPlatform none (some true)⟩

end Workflow

end ScenarioCompiler
