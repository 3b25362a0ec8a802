import ScenarioCompiler.Proofs.Pipeline.ExecutionOrder

namespace ScenarioCompiler

open DependencyGraph Relation

namespace Stage

/-! ### What each stage builds -/

section ByStage

variable {m : Type → Type}

theorem frontierAfter_nil (stage : Stage m) (frontier : List String) :
    stage.frontierAfter frontier [] = frontier := by
  simp [frontierAfter]

variable [Monad m]

/-- What a stage adds to a run: nothing when it is not enabled. -/
def contribution (stage : Stage m) (dependencies : Option (List String)) : m (List Container) :=
  if stage.enabled then stage.build dependencies else pure []

/-- Builds the stages like `link` and keeps apart what each of them adds. -/
def linkByStage : (frontier : List String) → List (Stage m) → m (List (Stage m × List Container))
  | _, [] => pure []
  | frontier, stage :: rest => do
    let built ← stage.contribution (stage.dependencies frontier)
    let later ← linkByStage (stage.frontierAfter frontier built) rest
    pure ((stage, built) :: later)

theorem link_eq_linkByStage [LawfulMonad m] (frontier : List String) (stages : List (Stage m)) :
    link frontier stages = (·.flatMap (·.2)) <$> linkByStage frontier stages := by
  induction stages generalizing frontier with
  | nil => simp [link, linkByStage]
  | cons stage rest ih =>
    rw [link, linkByStage, contribution]
    cases stage.enabled with
    | false => simp [ih, frontierAfter_nil]
    | true => simp [ih]

end ByStage

variable {stage : Stage Compile} {stages : List (Stage Compile)} {frontier : List String}
  {layers : List (Stage Compile × List Container)} {p q : Stage Compile × List Container}
  {built : List Container} {a b c : Container} {i j : StageKind}

theorem build_of_mem_contribution {dependencies : Option (List String)}
    (h : (stage.contribution dependencies).outcome = .ok built) (hc : c ∈ built) :
    (stage.build dependencies).outcome = .ok built := by
  unfold contribution at h
  split at h
  · exact h
  · simp only [Traced.outcome_pure, Except.ok.injEq] at h
    simp [← h] at hc

theorem linkByStage_nil_eq_ok :
    (linkByStage frontier ([] : List (Stage Compile))).outcome = .ok layers ↔ layers = [] := by
  simp [linkByStage, eq_comm]

theorem linkByStage_cons_eq_ok :
    (linkByStage frontier (stage :: stages)).outcome = .ok layers ↔
      ∃ built later, layers = (stage, built) :: later ∧
        (stage.contribution (stage.dependencies frontier)).outcome = .ok built ∧
        (linkByStage (stage.frontierAfter frontier built) stages).outcome = .ok later := by
  simp only [linkByStage, Traced.outcome_bind, Traced.outcome_pure, bind_eq_ok, Except.ok.injEq]
  constructor
  · rintro ⟨built, hb, later, hl, rfl⟩
    exact ⟨built, later, rfl, hb, hl⟩
  · rintro ⟨built, later, rfl, hb, hl⟩
    exact ⟨built, hb, later, hl, rfl⟩

theorem fst_linkByStage (h : (linkByStage frontier stages).outcome = .ok layers) :
    layers.map (·.1) = stages := by
  induction stages generalizing frontier layers with
  | nil => simp [linkByStage_nil_eq_ok.1 h]
  | cons stage rest ih =>
    obtain ⟨built, later, rfl, -, hl⟩ := linkByStage_cons_eq_ok.1 h
    rw [List.map_cons, ih hl]

theorem build_of_mem_linkByStage (h : (linkByStage frontier stages).outcome = .ok layers)
    (hp : p ∈ layers) (hc : c ∈ p.2) :
    ∃ dependencies, (p.1.build dependencies).outcome = .ok p.2 := by
  induction stages generalizing frontier layers with
  | nil => simp [linkByStage_nil_eq_ok.1 h] at hp
  | cons stage rest ih =>
    obtain ⟨built, later, rfl, hb, hl⟩ := linkByStage_cons_eq_ok.1 h
    rcases List.mem_cons.1 hp with rfl | hp
    · exact ⟨_, build_of_mem_contribution hb hc⟩
    · exact ih hl hp

/-! ### Layers -/

/-- Every container of a stage depends on what the stage waits for: the containers of the closest
stage before it that advanced the frontier. -/
def Layered : List String → List (Stage Compile × List Container) → Prop
  | _, [] => True
  | frontier, (stage, built) :: later =>
    (∀ c ∈ built, c.dependencies = stage.dependencies frontier) ∧
      Layered (stage.frontierAfter frontier built) later

/-- A stage whose containers depend on just what it is given. -/
def PassesDependencies (stage : Stage Compile) : Prop :=
  ∀ dependencies cs, (stage.build dependencies).outcome = .ok cs →
    ∀ c ∈ cs, c.dependencies = dependencies

theorem layered_of_linkByStage (hs : ∀ stage ∈ stages, stage.PassesDependencies)
    (h : (linkByStage frontier stages).outcome = .ok layers) : Layered frontier layers := by
  induction stages generalizing frontier layers with
  | nil => simp [linkByStage_nil_eq_ok.1 h, Layered]
  | cons stage rest ih =>
    obtain ⟨hstage, hrest⟩ := List.forall_mem_cons.1 hs
    obtain ⟨built, later, rfl, hb, hl⟩ := linkByStage_cons_eq_ok.1 h
    exact ⟨fun c hc => hstage _ _ (build_of_mem_contribution hb hc) c hc, ih hrest hl⟩

/-- No container has the name of the root, and only one stage builds containers of a name. -/
structure Named (layers : List (Stage Compile × List Container)) : Prop where
  kinds_nodup : (layers.map (·.1.kind)).Nodup
  name_ne_root : ∀ p ∈ layers, ∀ c ∈ p.2, c.name ≠ rootDependency
  eq_of_name_eq : ∀ p ∈ layers, ∀ q ∈ layers, ∀ a ∈ p.2, ∀ b ∈ q.2, a.name = b.name → p = q

theorem Named.tail (h : Named (p :: layers)) : Named layers where
  kinds_nodup := (List.nodup_cons.1 h.kinds_nodup).2
  name_ne_root q hq := h.name_ne_root q (List.mem_cons_of_mem _ hq)
  eq_of_name_eq q hq r hr :=
    h.eq_of_name_eq q (List.mem_cons_of_mem _ hq) r (List.mem_cons_of_mem _ hr)

theorem waitsFor_eq (hd : c.dependencies = stage.dependencies frontier)
    (hr : rootDependency ∉ frontier) : c.waitsFor = frontier := by
  have hf : frontier.filter (· ≠ rootDependency) = frontier := by
    rw [List.filter_eq_self]
    intro d hd
    exact decide_eq_true fun he => hr (he ▸ hd)
  rw [Container.waitsFor, hd]
  unfold dependencies
  split
  · exact hf
  · rename_i he
    have hnil : frontier = [] := by simpa using he
    subst hnil
    split <;> simp

theorem root_notMem_frontierAfter (hn : Named (p :: layers)) (hr : rootDependency ∉ frontier) :
    rootDependency ∉ p.1.frontierAfter frontier p.2 := by
  intro hm
  rcases List.mem_append.1 (frontierAfter_subset _ _ _ hm) with hm | hm
  · exact hr hm
  · obtain ⟨c, hc, he⟩ := List.mem_map.1 hm
    exact hn.name_ne_root p List.mem_cons_self c hc he

/-- All containers of a list of layers. -/
abbrev flat (layers : List (Stage Compile × List Container)) : List Container :=
  layers.flatMap (·.2)

theorem transGen_flat_cons {producer consumer : String}
    (h : TransGen (Edge (flat layers)) producer consumer) :
    TransGen (Edge (flat (p :: layers))) producer consumer := by
  refine TransGen.mono ?_ _ _ h
  rintro _ _ ⟨c, hc, he⟩
  exact ⟨c, List.mem_append_right _ hc, he⟩

/-- What is at the frontier comes before everything that is built later. -/
theorem Layered.transGen_of_mem_frontier (h : Layered frontier layers) (hn : Named layers)
    (hr : rootDependency ∉ frontier) {d : String} (hd : d ∈ frontier) (hc : c ∈ flat layers) :
    TransGen (Edge (flat layers)) d c.name := by
  induction layers generalizing frontier d with
  | nil => simp at hc
  | cons p later ih =>
    obtain ⟨hfirst, hlater⟩ := h
    have hedge : ∀ x ∈ p.2, Edge (flat (p :: later)) d x.name := fun x hx =>
      ⟨x, by simp [hx], rfl, by rwa [waitsFor_eq (hfirst x hx) hr]⟩
    rcases List.mem_append.1 hc with hc | hc
    · exact .single (hedge c hc)
    have hroot := root_notMem_frontierAfter hn hr
    have hrest : ∀ d ∈ p.1.frontierAfter frontier p.2,
        TransGen (Edge (flat (p :: later))) d c.name :=
      fun d hd => transGen_flat_cons (ih hlater hn.tail hroot hd hc)
    -- a new frontier is reached through any of its containers
    unfold frontierAfter at hrest
    split at hrest
    · rename_i hadv
      obtain ⟨x, hx⟩ : ∃ x, x ∈ p.2 := by
        apply List.exists_mem_of_ne_nil
        rintro he
        simp [he] at hadv
      exact .head (hedge x hx) (hrest _ (List.mem_map_of_mem hx))
    · exact hrest d hd

/-- What a stage that advances the frontier builds comes before everything that is built later. -/
theorem Layered.transGen_of_sublist (h : Layered frontier layers) (hn : Named layers)
    (hr : rootDependency ∉ frontier) (hpq : [p, q].Sublist layers)
    (hadv : p.1.advancesFrontier = true) (ha : a ∈ p.2) (hb : b ∈ q.2) :
    TransGen (Edge (flat layers)) a.name b.name := by
  induction layers generalizing frontier with
  | nil => simp at hpq
  | cons first later ih =>
    obtain ⟨-, hlater⟩ := h
    have hroot := root_notMem_frontierAfter hn hr
    apply transGen_flat_cons
    rcases List.sublist_cons_iff.1 hpq with hpq | ⟨rest, he, hq⟩
    · exact ih hlater hn.tail hroot hpq
    · obtain ⟨rfl, rfl⟩ := List.cons.inj he
      -- the later layers start from a frontier that has the name of `a`
      have hmem : a.name ∈ p.1.frontierAfter frontier p.2 := by
        rw [frontierAfter, if_pos]
        · exact List.mem_map_of_mem ha
        · simp [hadv, List.ne_nil_of_mem ha]
      exact hlater.transGen_of_mem_frontier hn.tail hroot hmem
        (List.mem_flatMap.2 ⟨q, List.singleton_sublist.1 hq, hb⟩)

/-- A container waits only for what stands at the frontier or for an earlier layer. -/
theorem Layered.of_mem_waitsFor (h : Layered frontier layers) (hn : Named layers)
    (hr : rootDependency ∉ frontier) (hq : q ∈ layers) (hc : c ∈ q.2) {d : String}
    (hd : d ∈ c.waitsFor) :
    d ∈ frontier ∨ ∃ p, [p, q].Sublist layers ∧ p.1.advancesFrontier = true ∧
      d ∈ p.2.map (·.name) := by
  induction layers generalizing frontier with
  | nil => simp at hq
  | cons first later ih =>
    obtain ⟨hfirst, hlater⟩ := h
    rcases List.mem_cons.1 hq with rfl | hq
    · exact .inl (waitsFor_eq (hfirst c hc) hr ▸ hd)
    rcases ih hlater hn.tail (root_notMem_frontierAfter hn hr) hq with hd | ⟨p, hp, he⟩
    · -- behind the first layer the frontier consists of its names, or is the one before it
      unfold frontierAfter at hd
      split at hd
      · rename_i hadv
        have hadv : first.1.advancesFrontier = true := by
          simp only [Bool.and_eq_true] at hadv
          exact hadv.1
        exact .inr ⟨first, List.cons_sublist_cons.2 (List.singleton_sublist.2 hq), hadv, hd⟩
      · exact .inl hd
    · exact .inr ⟨p, hp.cons _, he⟩

theorem sublist_iff_idxOf_lt (hn : (layers.map (·.1.kind)).Nodup) (hp : p ∈ layers)
    (hq : q ∈ layers) : [p, q].Sublist layers ↔
      (layers.map (·.1.kind)).idxOf p.1.kind < (layers.map (·.1.kind)).idxOf q.1.kind := by
  induction layers with
  | nil => simp at hp
  | cons first later ih =>
    obtain ⟨hnew, hrest⟩ := List.nodup_cons.1 hn
    have hne : ∀ r ∈ later, first.1.kind ≠ r.1.kind := fun r hr he =>
      hnew (List.mem_map.2 ⟨r, hr, he.symm⟩)
    have hfirst : first ∉ later := fun hm => hne first hm rfl
    rw [List.sublist_cons_iff, List.map_cons]
    rcases List.mem_cons.1 hp with rfl | hpl <;> rcases List.mem_cons.1 hq with rfl | hql
    · have hs : ¬ [q, q].Sublist later := fun hs => hfirst (hs.subset List.mem_cons_self)
      simp [hs, hfirst]
    · have hs : [q].Sublist later := List.singleton_sublist.2 hql
      simp [hs, hne q hql]
    · have hs : ¬ [p, q].Sublist later := fun hs => hfirst (hs.subset (by simp))
      have hpq : p ≠ q := fun he => hfirst (he ▸ hpl)
      simp [hs, hpq]
    · have hpf : p ≠ first := fun he => hfirst (he ▸ hpl)
      simp [hpf, hne p hpl, hne q hql, ih hrest hpl hql]

/-- The stage of a kind built the container. -/
def BuiltBy (layers : List (Stage Compile × List Container)) (kind : StageKind) (c : Container) :
    Prop :=
  ∃ p ∈ layers, p.1.kind = kind ∧ c ∈ p.2

/-- A stage stands before another one in the table of stages. -/
def Precedes (stages : List (Stage Compile)) (first second : StageKind) : Prop :=
  (stages.map (·.kind)).idxOf first < (stages.map (·.kind)).idxOf second

variable {x z : String}

/-- A step from a container to one that waits for it leads to a later stage. -/
theorem Layered.of_edge (h : Layered [] layers) (hn : Named layers) (he : Edge (flat layers) x z)
    (hj : BuiltBy layers j b) (hz : b.name = z) :
    ∃ p ∈ layers, (∃ a ∈ p.2, a.name = x) ∧ p.1.advancesFrontier = true ∧
      (layers.map (·.1.kind)).idxOf p.1.kind < (layers.map (·.1.kind)).idxOf j := by
  obtain ⟨q, hq, rfl, hb⟩ := hj
  obtain ⟨c, hc, hname, hw⟩ := he
  obtain ⟨r, hr, hcr⟩ := List.mem_flatMap.1 hc
  obtain rfl : r = q := hn.eq_of_name_eq r hr q hq c hcr b hb (hname.trans hz.symm)
  rcases h.of_mem_waitsFor hn (by simp) hr hcr hw with hx | ⟨p, hp, hadv, hx⟩
  · simp at hx
  · have hpm : p ∈ layers := hp.subset List.mem_cons_self
    exact ⟨p, hpm, List.mem_map.1 hx, hadv, (sublist_iff_idxOf_lt hn.kinds_nodup hpm hr).1 hp⟩

theorem Layered.of_transGen (h : Layered [] layers) (hn : Named layers)
    (ht : TransGen (Edge (flat layers)) x z) (hp : p ∈ layers) (ha : a ∈ p.2) (hx : a.name = x)
    (hj : BuiltBy layers j b) (hz : b.name = z) :
    p.1.advancesFrontier = true ∧
      (layers.map (·.1.kind)).idxOf p.1.kind < (layers.map (·.1.kind)).idxOf j := by
  -- the last step leads on from a layer to which the induction hypothesis applies
  induction ht generalizing j b with
  | single he =>
    obtain ⟨r, hr, ⟨c, hc, hname⟩, hadv, hlt⟩ := h.of_edge hn he hj hz
    obtain rfl : r = p := hn.eq_of_name_eq r hr p hp c hc a ha (hname.trans hx.symm)
    exact ⟨hadv, hlt⟩
  | tail _ he ih =>
    obtain ⟨r, hr, ⟨c, hc, hname⟩, -, hlt⟩ := h.of_edge hn he hj hz
    obtain ⟨hadv, hlt'⟩ := ih ⟨r, hr, rfl, hc⟩ hname
    exact ⟨hadv, Nat.lt_trans hlt' hlt⟩

/-- A container waits for just those of earlier stages which advanced the frontier. -/
theorem Layered.dependsOn_iff (h : Layered [] layers) (hn : Named layers) (hp : p ∈ layers)
    (ha : a ∈ p.2) (hj : BuiltBy layers j b) :
    DependsOn (flat layers) b a ↔ p.1.advancesFrontier = true ∧
      (layers.map (·.1.kind)).idxOf p.1.kind < (layers.map (·.1.kind)).idxOf j := by
  constructor
  · intro hd
    exact h.of_transGen hn hd hp ha rfl hj rfl
  · rintro ⟨hadv, hlt⟩
    obtain ⟨q, hq, rfl, hb⟩ := hj
    have hpq := (sublist_iff_idxOf_lt hn.kinds_nodup hp hq).2 hlt
    exact h.transGen_of_sublist hn (by simp) hpq hadv ha hb

theorem Layered.of_append {before : List (Stage Compile × List Container)}
    (h : Layered frontier (before ++ layers)) : ∃ frontier, Layered frontier layers := by
  induction before generalizing frontier with
  | nil => exact ⟨frontier, h⟩
  | cons p before ih => exact ih h.2

/-- The first container that is built from a frontier on depends on that frontier. -/
theorem Layered.dependencies_of_first {after : List Container} (h : Layered frontier layers)
    (he : flat layers = c :: after) :
    ∃ p ∈ layers, c.dependencies = p.1.dependencies frontier := by
  induction layers generalizing frontier with
  | nil => simp at he
  | cons p later ih =>
    obtain ⟨stage, built⟩ := p
    obtain ⟨hfirst, hlater⟩ := h
    cases built with
    | nil =>
      rw [frontierAfter_nil] at hlater
      obtain ⟨q, hq, hd⟩ := ih hlater he
      exact ⟨q, List.mem_cons_of_mem _ hq, hd⟩
    | cons x built =>
      obtain rfl : x = c := (List.cons.inj he).1
      exact ⟨_, List.mem_cons_self, hfirst x List.mem_cons_self⟩

end Stage

end ScenarioCompiler
