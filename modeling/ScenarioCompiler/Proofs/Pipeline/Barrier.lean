import ScenarioCompiler.Proofs.Pipeline.Layers

namespace ScenarioCompiler

namespace StageKind

/-- The stages that download the input of a run. -/
def fetching : List StageKind := [datasetFetch, scenarioParameterFetch, datasetParameterFetch]

end StageKind

namespace Pipeline

open Stage

/-- Each stage is a barrier for the containers after it, apart from the one that sends data to the
warehouse: nothing waits for its container, and the solution goes on as if it were not there. -/
structure Barriers (stages : List (Stage Compile))
    (layers : List (Stage Compile × List Container)) (containers : List Container) : Prop where
  existsUnique_builtBy : ∀ c ∈ containers, ∃! kind, BuiltBy layers kind c
  dependsOn_iff : ∀ i j a b, BuiltBy layers i a → BuiltBy layers j b →
    (DependsOn containers b a ↔ a.name ≠ Step.warehouseName ∧ Precedes stages i j)
  solution_dependsOn : ∀ i ∈ StageKind.fetching, ∀ a b, BuiltBy layers i a → b ∈ containers →
    b.solutionContainer = true → DependsOn containers b a
  independent : ∀ i a b, BuiltBy layers i a → BuiltBy layers i b → ¬ DependsOn containers b a
  not_dependsOn_warehouse : ∀ w ∈ containers, w.name = Step.warehouseName → ∀ c ∈ containers,
    w.name ∉ c.dependencies.getD [] ∧ ¬ DependsOn containers c w
  after_warehouse : ∀ before w between c after,
    containers = before ++ w :: (between ++ c :: after) → w.name = Step.warehouseName →
      (∀ x ∈ between, x.solutionContainer = false) → c.solutionContainer = true →
        c.dependencies = w.dependencies

namespace Input

variable {input : Input} {layers : List (Stage Compile × List Container)}

theorem datasetFetch_dependencies {dependencies : Option (List String)} {cs : List Container}
    (h : (input.datasetFetch.build dependencies).outcome = .ok cs) :
    ∀ c ∈ cs, c.dependencies = some [rootDependency] :=
  fun _ hc => (Step.mem_fetchNumbered h hc).1

variable (input)

theorem passesDependencies : ∀ stage ∈ input.stages.tail, stage.PassesDependencies := by
  have hsolution : ∀ kind step, (input.solutionStage kind step).PassesDependencies := by
    intro kind step dependencies cs h
    obtain ⟨c, hc, rfl⟩ := input.solutionStage_eq_ok.1 h
    simpa using (Step.runSolution_eq_ok hc).2.1
  simp only [stages, List.tail_cons, List.forall_mem_cons, List.not_mem_nil, false_implies,
    implies_true, and_true]
  refine ⟨fun _ _ h => ?_, fun _ _ h c hc => ?_, hsolution _ _, hsolution _ _, fun _ _ h => ?_,
    hsolution _ _, hsolution _ _, hsolution _ _⟩
  · obtain ⟨c, hc, rfl⟩ := map_eq_ok.1 h
    simpa using (Step.fetchParameters_eq_ok hc).2.1
  · exact (Step.mem_fetchNumbered (Step.fetchDatasetParameters_eq_ok h).2 hc).1
  · obtain ⟨c, hc, rfl⟩ := map_eq_ok.1 h
    simpa using (Step.sendToWarehouse_eq_ok hc).2.1

theorem advancesFrontier_iff : ∀ stage ∈ input.stages,
    (stage.advancesFrontier = true ↔ stage.kind ≠ .sendToWarehouse) := by
  simp [stages, datasetFetch, scenarioParameterFetch, datasetParameterFetch, solutionStage,
    sendToWarehouse]

theorem rootWhenFirst_eq : ∀ stage ∈ input.stages, stage.rootWhenFirst =
    (stage.kind == .datasetFetch || stage.kind == .scenarioParameterFetch) := by
  simp only [stages, List.forall_mem_cons, List.not_mem_nil, false_implies, implies_true, and_true]
  exact ⟨rfl, rfl, rfl, rfl, rfl, rfl, rfl, rfl, rfl⟩

variable {input} {a b c w : Container} {i j kind : StageKind}

theorem linked_iff {linked : List Container} : Linked [] input.stages linked ↔
    ∃ layers, (linkByStage [] input.stages).outcome = .ok layers ∧ flat layers = linked := by
  rw [← linkAll_eq_ok, linkAll, link_eq_linkByStage, Traced.outcome_map, map_eq_ok]

theorem layered (h : (linkByStage [] input.stages).outcome = .ok layers) : Layered [] layers := by
  -- the first stage does not pass on what it is given, which is the root when it is first
  obtain ⟨built, later, rfl, hb, hl⟩ := linkByStage_cons_eq_ok.1 h
  refine ⟨fun c hc => ?_, layered_of_linkByStage input.passesDependencies hl⟩
  exact datasetFetch_dependencies (build_of_mem_contribution hb hc) c hc

theorem kinds_eq (h : (linkByStage [] input.stages).outcome = .ok layers) :
    layers.map (·.1.kind) = input.stages.map (·.kind) := by
  rw [← fst_linkByStage h, List.map_map]
  rfl

theorem mem_stages (h : (linkByStage [] input.stages).outcome = .ok layers)
    {p : Stage Compile × List Container} (hp : p ∈ layers) : p.1 ∈ input.stages := by
  rw [← fst_linkByStage h]
  exact List.mem_map_of_mem hp

theorem exists_built (h : (linkByStage [] input.stages).outcome = .ok layers)
    (hc : BuiltBy layers kind c) : ∃ dependencies built, Built kind dependencies built ∧
      c ∈ built := by
  obtain ⟨p, hp, rfl, hc⟩ := hc
  obtain ⟨dependencies, hb⟩ := build_of_mem_linkByStage h hp hc
  exact ⟨_, _, (input.stages_sound p.1 (mem_stages h hp)).built _ _ hb, hc⟩

theorem stem_name (h : (linkByStage [] input.stages).outcome = .ok layers)
    (hc : BuiltBy layers kind c) : stem c.name = kind.baseName.toList := by
  obtain ⟨_, _, hb, hc⟩ := exists_built h hc
  exact hb.stem_eq c hc

theorem name_ne_root (h : (linkByStage [] input.stages).outcome = .ok layers)
    (hc : BuiltBy layers kind c) : c.name ≠ rootDependency := by
  intro he
  have hs := stem_name h hc
  rw [he] at hs
  revert hs
  cases kind <;> decide +kernel

theorem named (h : (linkByStage [] input.stages).outcome = .ok layers) : Named layers where
  kinds_nodup := kinds_eq h ▸ input.kinds_nodup
  name_ne_root p hp c hc := name_ne_root h ⟨p, hp, rfl, hc⟩
  eq_of_name_eq p hp q hq a ha b hb he := by
    have hs := stem_name h ⟨p, hp, rfl, ha⟩
    rw [he, stem_name h ⟨q, hq, rfl, hb⟩] at hs
    have hn : (layers.map (·.1.kind)).Nodup := kinds_eq h ▸ input.kinds_nodup
    exact List.inj_on_of_nodup_map hn hp hq (StageKind.baseName_injective hs.symm)

theorem warehouse_layer (h : (linkByStage [] input.stages).outcome = .ok layers)
    {p : Stage Compile × List Container} (hp : p ∈ layers) (hk : p.1.kind = .sendToWarehouse)
    (hc : c ∈ p.2) : p = (input.sendToWarehouse, [c]) ∧ c.name = Step.warehouseName := by
  obtain ⟨dependencies, hb⟩ := build_of_mem_linkByStage h hp hc
  have hstage : p.1 = input.sendToWarehouse :=
    List.inj_on_of_nodup_map input.kinds_nodup (mem_stages h hp) (by simp [stages]) hk
  rw [hstage] at hb
  obtain ⟨x, hx, he⟩ := map_eq_ok.1 hb
  obtain rfl : c = x := List.mem_singleton.1 (he ▸ hc)
  exact ⟨Prod.ext hstage he.symm, (Step.sendToWarehouse_eq_ok hx).1⟩

/-- The container of the warehouse is the only one of its name. -/
theorem name_eq_warehouse_iff (h : (linkByStage [] input.stages).outcome = .ok layers)
    (hc : BuiltBy layers kind c) : c.name = Step.warehouseName ↔ kind = .sendToWarehouse := by
  constructor
  · intro he
    have hs := stem_name h hc
    rw [he, Step.stem_warehouseName] at hs
    exact StageKind.baseName_injective hs.symm
  · rintro rfl
    obtain ⟨p, hp, hk, hc⟩ := hc
    exact (warehouse_layer h hp hk hc).2

theorem solutionContainer_iff (h : (linkByStage [] input.stages).outcome = .ok layers)
    (hc : BuiltBy layers kind c) : c.solutionContainer = true ↔ kind.step? ≠ none := by
  obtain ⟨_, _, hb, hc⟩ := exists_built h hc
  constructor
  · intro hs hk
    simp [hb.plain hk c hc] at hs
  · intro hk
    obtain ⟨step, hk⟩ := Option.ne_none_iff_exists'.1 hk
    obtain ⟨x, rfl, -, -, hs, -⟩ := hb.solution step hk
    rw [List.mem_singleton.1 hc, hs]

theorem dependsOn_iff (h : (linkByStage [] input.stages).outcome = .ok layers)
    (ha : BuiltBy layers i a) (hb : BuiltBy layers j b) :
    DependsOn (flat layers) b a ↔ a.name ≠ Step.warehouseName ∧ Precedes input.stages i j := by
  rw [Ne, name_eq_warehouse_iff h ha]
  obtain ⟨p, hp, rfl, ha⟩ := ha
  rw [(layered h).dependsOn_iff (named h) hp ha hb, kinds_eq h,
    input.advancesFrontier_iff p.1 (mem_stages h hp)]
  rfl

theorem precedes_of_fetching (hi : i ∈ StageKind.fetching) (hj : j.step? ≠ none) :
    i ≠ .sendToWarehouse ∧ Precedes input.stages i j := by
  have hall : input.stages.map (·.kind) = StageKind.all := rfl
  rw [Precedes, hall]
  simp only [StageKind.fetching, List.mem_cons, List.not_mem_nil, or_false] at hi
  revert hj
  rcases hi with rfl | rfl | rfl <;> cases j <;> decide

/-- The stages after the warehouse are the last steps of the solution. -/
theorem kinds_after_warehouse {before after : List StageKind}
    (h : before ++ .sendToWarehouse :: after = input.stages.map (·.kind)) :
    after = [.preRun, .run, .postRun] := by
  have hall : input.stages.map (·.kind) = StageKind.all := rfl
  have hn : (before ++ .sendToWarehouse :: after).Nodup := h ▸ input.kinds_nodup
  obtain ⟨hm, -⟩ := List.nodup_cons.1 (List.nodup_middle.1 hn)
  have he : before ++ .sendToWarehouse :: after =
      [.datasetFetch, .scenarioParameterFetch, .datasetParameterFetch, .applyParameters,
        .validate] ++ .sendToWarehouse :: [.preRun, .run, .postRun] := h.trans hall
  rw [List.append_cons_inj_of_notMem (fun hb => hm (List.mem_append_left _ hb))
    (fun ha => hm (List.mem_append_right _ ha))] at he
  exact he.2.2

theorem names_nodup (h : (linkByStage [] input.stages).outcome = .ok layers) :
    ((flat layers).map (·.name)).Nodup := by
  have hl : Linked [] input.stages (flat layers) := linked_iff.2 ⟨layers, h, rfl⟩
  exact (wellOrdered_linked hl).names_nodup

/-- A container of the warehouse is a layer of its own, and after it come only the last steps of
the solution. -/
theorem layers_of_warehouse (h : (linkByStage [] input.stages).outcome = .ok layers)
    (hw : w ∈ flat layers) (hname : w.name = Step.warehouseName) :
    ∃ first last, layers = first ++ (input.sendToWarehouse, [w]) :: last ∧
      ∀ q ∈ last, q.1.kind ∈ [.preRun, .run, .postRun] := by
  obtain ⟨p, hp, hwp⟩ := List.mem_flatMap.1 hw
  have hk := (name_eq_warehouse_iff h ⟨p, hp, rfl, hwp⟩).1 hname
  obtain ⟨rfl, -⟩ := warehouse_layer h hp hk hwp
  obtain ⟨first, last, rfl⟩ := List.append_of_mem hp
  have hkinds : first.map (·.1.kind) ++ StageKind.sendToWarehouse :: last.map (·.1.kind) =
      input.stages.map (·.kind) := by
    rw [← kinds_eq h, List.map_append, List.map_cons]
    rfl
  have hlast : last.map (·.1.kind) = [.preRun, .run, .postRun] := kinds_after_warehouse hkinds
  exact ⟨first, last, rfl, fun q hq => hlast ▸ List.mem_map_of_mem hq⟩

/-- A container splits the list of all containers in one way only. -/
theorem split_unique (h : (linkByStage [] input.stages).outcome = .ok layers)
    {before after first last : List Container} (he : flat layers = before ++ w :: after)
    (he' : flat layers = first ++ w :: last) : after = last := by
  have hn := (names_nodup h).of_map
  rw [he] at hn
  obtain ⟨hnot, -⟩ := List.nodup_cons.1 (List.nodup_middle.1 hn)
  rw [he, List.append_cons_inj_of_notMem (fun hm => hnot (List.mem_append_left _ hm))
    (fun hm => hnot (List.mem_append_right _ hm))] at he'
  exact he'.2.2

theorem dependencies_after_warehouse (h : (linkByStage [] input.stages).outcome = .ok layers)
    {before between after : List Container}
    (he : flat layers = before ++ w :: (between ++ c :: after)) (hw : w.name = Step.warehouseName)
    (hbetween : ∀ x ∈ between, x.solutionContainer = false) : c.dependencies = w.dependencies := by
  obtain ⟨first, last, rfl, hlast⟩ := layers_of_warehouse h (he ▸ by simp) hw
  have hflat : flat last = between ++ c :: after :=
    split_unique h (by simp [flat] : _ = flat first ++ w :: flat last) he
  have hsolution : ∀ x ∈ flat last, x.solutionContainer = true := by
    intro x hx
    obtain ⟨q, hq, hxq⟩ := List.mem_flatMap.1 hx
    rw [solutionContainer_iff h ⟨q, by simp [hq], rfl, hxq⟩]
    have hkind := hlast q hq
    revert hkind
    cases q.1.kind <;> simp [StageKind.step?]
  obtain rfl : between = [] := by
    refine List.eq_nil_iff_forall_not_mem.2 fun x hx => ?_
    have hs := hsolution x (hflat ▸ List.mem_append_left _ hx)
    simp [hbetween x hx] at hs
  -- the layer of the warehouse leaves the frontier as it was
  obtain ⟨frontier, hfirst, hlater⟩ := (layered h).of_append
  obtain ⟨q, hq, hd⟩ := hlater.dependencies_of_first hflat
  have hroot : q.1.rootWhenFirst = false := by
    rw [input.rootWhenFirst_eq q.1 (mem_stages h (by simp [hq]))]
    have hkind := hlast q hq
    revert hkind
    cases q.1.kind <;> simp
  rw [hd, hfirst w List.mem_cons_self]
  simp [dependencies, frontierAfter, sendToWarehouse, hroot]

/-- The stages of a run are barriers. -/
theorem barriers (h : (linkByStage [] input.stages).outcome = .ok layers) :
    Barriers input.stages layers (flat layers) where
  existsUnique_builtBy c hc := by
    obtain ⟨p, hp, hc⟩ := List.mem_flatMap.1 hc
    refine ⟨p.1.kind, ⟨p, hp, rfl, hc⟩, ?_⟩
    rintro _ ⟨q, hq, rfl, hcq⟩
    rw [(named h).eq_of_name_eq p hp q hq c hc c hcq rfl]
  dependsOn_iff i j a b ha hb := dependsOn_iff h ha hb
  solution_dependsOn i hi a b ha hb hs := by
    obtain ⟨p, hp, hbp⟩ := List.mem_flatMap.1 hb
    have hb : BuiltBy layers p.1.kind b := ⟨p, hp, rfl, hbp⟩
    have hk := (solutionContainer_iff h hb).1 hs
    rw [dependsOn_iff h ha hb, Ne, name_eq_warehouse_iff h ha]
    exact precedes_of_fetching hi hk
  independent i a b ha hb hd := Nat.lt_irrefl _ ((dependsOn_iff h ha hb).1 hd).2
  not_dependsOn_warehouse w hw hname c hc := by
    obtain ⟨p, hp, hwp⟩ := List.mem_flatMap.1 hw
    obtain ⟨q, hq, hcq⟩ := List.mem_flatMap.1 hc
    have hnot : ¬ DependsOn (flat layers) c w := fun hd =>
      ((dependsOn_iff h ⟨p, hp, rfl, hwp⟩ ⟨q, hq, rfl, hcq⟩).1 hd).1 hname
    refine ⟨fun hm => hnot ?_, hnot⟩
    have hroot := name_ne_root h ⟨p, hp, rfl, hwp⟩
    exact .single ⟨c, hc, rfl, Container.mem_waitsFor.2 ⟨hm, hroot⟩⟩
  after_warehouse _ _ _ _ _ he hw hbetween _ := dependencies_after_warehouse h he hw hbetween

end Input

variable {settings : PlatformSettings} {checker : EventHubChecker} {request : RunRequest}
  {csmSimulationId : String} {compiled : List Container}

/-- In a run that is not stacked a container waits, directly or through others, for just those
that earlier stages built, the one of the warehouse apart. -/
theorem stages_are_barriers
    (h : (containers settings checker request csmSimulationId).outcome = .ok compiled)
    (hoff : ∀ template, request.solution.template request.scenario.runTemplateId = .ok template →
      template.stackSteps ≠ some true) :
    ∃ template layers,
      request.solution.template request.scenario.runTemplateId = .ok template ∧
      let stages := (inputWith settings checker request csmSimulationId template).stages
      (linkByStage [] stages).outcome = .ok layers ∧ layers.flatMap (·.2) = compiled ∧
        Barriers stages layers compiled := by
  obtain ⟨template, linked, ht, hl, rfl⟩ := containers_eq_ok.1 h
  obtain ⟨layers, hlayers, rfl⟩ := Input.linked_iff.1 hl
  rw [Input.arrange_eq_self (hoff template ht)]
  exact ⟨template, layers, ht, hlayers, rfl, Input.barriers hlayers⟩

/-- A request that fetches one dataset twice, and once more for a parameter. -/
def fanRequest : RunRequest :=
  { smallRequest none with
    solution := { (smallRequest none).solution with
      parameters := [⟨"parameter", some Placeholder.datasetIdToken, none⟩] }
    scenario := { (smallRequest none).scenario with
      datasetList := ["d-1", "d-1"]
      parametersValues := [⟨"parameter", "d-1", none⟩] }
    datasets := [⟨"d-1", none, some ⟨some "c-1", none, none, .empty⟩⟩]
    connectors := [⟨"c-1", none, none, "connector", none, none, none, []⟩] }

theorem fanRequest_barriers : ∃ compiled layers,
    (containers smallPlatform none fanRequest "id").outcome = .ok compiled ∧
    compiled.length = 10 ∧
    Barriers (inputWith smallPlatform none fanRequest "id" (smallTemplate none)).stages layers
      compiled := by
  have ht : fanRequest.solution.template "template" = .ok (smallTemplate none) := rfl
  have hoff : ∀ template, fanRequest.solution.template "template" = .ok template →
      template.stackSteps ≠ some true := by
    intro template h
    rw [← Except.ok.inj (ht.symm.trans h)]
    decide
  have h : (containers smallPlatform none fanRequest "id").outcome = .ok _ := rfl
  obtain ⟨template, layers, ht', -, -, hb⟩ := stages_are_barriers h hoff
  obtain rfl := Except.ok.inj (ht.symm.trans ht')
  exact ⟨_, layers, h, rfl, hb⟩

end Pipeline

end ScenarioCompiler
