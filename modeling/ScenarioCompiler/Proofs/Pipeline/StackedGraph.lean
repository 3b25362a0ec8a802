import ScenarioCompiler.Proofs.Pipeline.SolutionRuns

namespace ScenarioCompiler.Stack

open DependencyGraph

variable {containers before run after rest : List Container} {first c : Container}

/-- The container with the name is the second or a later member of a run. -/
def Later (containers : List Container) (name : String) : Prop :=
  ∃ before first rest after, IsRun containers before (first :: rest) after ∧
    ∃ c ∈ rest, c.name = name

/-- The members of each run of two or more get the name of the merged container, and all other
names are kept. -/
structure MergesRuns (containers : List Container) (newName : String → String) : Prop where
  member : ∀ before run after, IsRun containers before run after → 1 < run.length →
    ∀ c ∈ run, newName c.name = mergedName (runCount before + 1)
  other : ∀ name, (∀ before run after, IsRun containers before run after → 1 < run.length →
    ∀ c ∈ run, c.name ≠ name) → newName name = name

/-- The new names of what a container waits for, each once and in the order of their first
occurrence; a list in which no name changes is kept as it is. -/
def renamedDependencies (newName : String → String) (dependencies : List String) : List String :=
  if ∃ d ∈ dependencies, newName d ≠ d then distinct (dependencies.map newName) else dependencies

/-- The group of a solution container is its run. -/
theorem isRun_of_block (hd : containers.Nodup) {p : Nat × List Container}
    (hp : p ∈ blocks containers) (hc : c ∈ p.2) (hs : c.solutionContainer = true) :
    ∃ before after, IsRun containers before p.2 after ∧ p.1 = runCount before + 1 := by
  obtain ⟨before, run, after, hrun, hm⟩ := exists_run (mem_of_block hp hc) hs
  obtain rfl := block_unique hd hp hrun.mem_blocks hc hm
  exact ⟨before, after, hrun, rfl⟩

theorem isRun_of_merged (hd : containers.Nodup) {p : Nat × List Container}
    (hp : p ∈ blocks containers) (hl : 1 < p.2.length) :
    ∃ before after, IsRun containers before p.2 after ∧ p.1 = runCount before + 1 := by
  obtain ⟨c, hc⟩ := List.exists_mem_of_ne_nil p.2 (group_shape (snd_mem_groups hp)).1
  exact isRun_of_block hd hp hc (solution_of_block hp hl hc)

/-- Numbers of merged groups are not beyond the number of runs. -/
theorem unreserved (hroot : ∀ c ∈ containers, c.name ≠ rootDependency)
    (hfree : ∀ number, 1 ≤ number → number ≤ runCount containers →
      ∀ c ∈ containers, c.name ≠ mergedName number) : Unreserved containers := by
  refine fun c hc => ⟨hroot c hc, fun p hp hl => ?_⟩
  obtain ⟨x, hx⟩ := List.exists_mem_of_ne_nil p.2 (group_shape (snd_mem_groups hp)).1
  have hs : p.2.any (·.solutionContainer) = true :=
    List.any_eq_true.2 ⟨x, hx, solution_of_block hp hl hx⟩
  have hle := number_le hp
  rw [countP_groups, Nat.zero_add] at hle
  exact hfree p.1 ((lt_number hp).2 hs) hle c hc

theorem mergesRuns_newName (hn : (containers.map (·.name)).Nodup) :
    MergesRuns containers (newName containers) where
  member before run after h hl c hc := by
    obtain ⟨first, rest, rfl⟩ := List.exists_cons_of_ne_nil h.ne_nil
    have hr : rest ≠ [] := by
      rintro rfl
      exact absurd hl (Nat.lt_irrefl 1)
    rw [newName_of_block hn h.mem_blocks hc, standIn_name, if_neg hr]
  other name h := by
    rw [newName]
    cases hg : Table.get? (newNames containers) name with
    | none => rfl
    | some new =>
      obtain ⟨p, hp, hl, -, c, hc, hname⟩ := get?_newNames_eq_some hn hg
      obtain ⟨before, after, hrun, -⟩ := isRun_of_merged hn.of_map hp hl
      exact absurd hname (h before p.2 after hrun hl c hc)

/-- The first members of the groups are the containers that are no later members of runs. -/
theorem not_later_iff (hn : (containers.map (·.name)).Nodup) (hc : c ∈ containers) :
    ¬ Later containers c.name ↔ ∃ number rest, (number, c :: rest) ∈ blocks containers := by
  constructor
  · intro h
    obtain ⟨p, hp, hcp⟩ := exists_block hc
    obtain ⟨number, first, rest, rfl⟩ := exists_first hp
    rcases List.mem_cons.1 hcp with rfl | hrest
    · exact ⟨number, rest, hp⟩
    · have hl : 1 < (first :: rest).length := by
        have := List.length_pos_of_mem hrest
        rw [List.length_cons]
        omega
      obtain ⟨before, after, hrun, -⟩ := isRun_of_merged hn.of_map hp hl
      exact absurd ⟨before, first, rest, after, hrun, c, hrest, rfl⟩ h
  · rintro ⟨number, others, hp⟩ ⟨before, first, rest, after, hrun, d, hd, hname⟩
    have hb := hrun.mem_blocks
    have hdc : d = c :=
      List.inj_on_of_nodup_map hn (mem_of_block hb (List.mem_cons_of_mem _ hd)) hc hname
    subst hdc
    cases block_unique hn.of_map hp hb List.mem_cons_self (List.mem_cons_of_mem _ hd)
    -- the list would hold the container twice
    have hnodup := hn.of_map
    rw [hrun.split, List.nodup_append, List.nodup_append] at hnodup
    exact (List.nodup_cons.1 hnodup.1.2.1).1 hd

theorem newName_ne_iff (hn : (containers.map (·.name)).Nodup) (hu : Unreserved containers)
    (d : String) :
    newName containers d ≠ d ↔ (Table.get? (newNames containers) d).isSome = true := by
  rw [newName]
  cases hg : Table.get? (newNames containers) d with
  | none => simp
  | some new =>
    obtain ⟨p, hp, hl, rfl, c, hc, rfl⟩ := get?_newNames_eq_some hn hg
    simpa using ((hu c (mem_of_block hp hc)).2 p hp hl).symm

/-- A redirected container waits for the new names of what it waited for. -/
theorem redirect_dependencies (hn : (containers.map (·.name)).Nodup) (hu : Unreserved containers)
    (c : Container) :
    (redirect (newNames containers) c).dependencies =
      c.dependencies.map (renamedDependencies (newName containers)) := by
  unfold redirect
  cases hc : c.dependencies with
  | none => exact hc
  | some dependencies =>
    have hany : (∃ d ∈ dependencies, newName containers d ≠ d) ↔
        (dependencies.any fun d => (Table.get? (newNames containers) d).isSome) = true := by
      simp only [List.any_eq_true, newName_ne_iff hn hu]
    simp only [Option.map_some, renamedDependencies, hany]
    split
    · rfl
    · exact hc

/-- Stacking makes the quotient of the dependency graph by the runs of solution containers. The
edges of the new graph are the images of the edges into containers that are no later members of
runs, and every stacked container waits for the images of what the one it replaces waited for. -/
theorem stacked_graph_is_quotient {graph : DependencyGraph} (hg : of containers = .ok graph)
    (hroot : ∀ c ∈ containers, c.name ≠ rootDependency)
    (hfree : ∀ number, 1 ≤ number → number ≤ runCount containers →
      ∀ c ∈ containers, c.name ≠ mergedName number) :
    ∃ (stacked : DependencyGraph) (newName : String → String),
      of (stack containers) = .ok stacked ∧ MergesRuns containers newName ∧
      (∀ producer consumer, (producer, consumer) ∈ stacked.edges ↔
        ∃ a b, (a, b) ∈ graph.edges ∧ ¬ Later containers b ∧
          newName a = producer ∧ newName b = consumer) ∧
      (∀ c ∈ containers, ¬ Later containers c.name → ∃ s ∈ stack containers,
        s.name = newName c.name ∧
        s.dependencies = c.dependencies.map (renamedDependencies newName)) ∧
      ∀ s ∈ stack containers, ∃ c ∈ containers, ¬ Later containers c.name ∧
        s.name = newName c.name ∧
        s.dependencies = c.dependencies.map (renamedDependencies newName) := by
  have hw : WellOrdered containers := exists_of_eq_ok.1 ⟨graph, hg⟩
  have hn := hw.names_nodup
  have hu := unreserved hroot hfree
  have hws := wellOrdered_stack hw hu
  obtain ⟨stacked, hs⟩ := exists_of_eq_ok.2 hws
  have replaced {number : Nat} {c : Container} {rest : List Container}
      (hp : (number, c :: rest) ∈ blocks containers) :
      (redirect (newNames containers) (standIn number c rest)).name = newName containers c.name ∧
      (redirect (newNames containers) (standIn number c rest)).dependencies =
        c.dependencies.map (renamedDependencies (newName containers)) := by
    rw [redirect_name, redirect_dependencies hn hu, standIn_dependencies,
      newName_of_block hn hp List.mem_cons_self]
    exact ⟨rfl, rfl⟩
  refine ⟨stacked, newName containers, hs, mergesRuns_newName hn, ?_, ?_, ?_⟩
  · intro producer consumer
    rw [hws.mem_edges hs, edge_stack hn hu]
    constructor
    · rintro ⟨number, first, rest, hp, hb, a, ha, hpa⟩
      have hm := mem_of_block hp List.mem_cons_self
      exact ⟨a, first.name, (hw.mem_edges hg).2 ⟨first, hm, rfl, ha⟩,
        (not_later_iff hn hm).2 ⟨number, rest, hp⟩, hpa, hb⟩
    · rintro ⟨a, b, he, hlater, hpa, hb⟩
      obtain ⟨c, hc, rfl, ha⟩ := (hw.mem_edges hg).1 he
      obtain ⟨number, rest, hp⟩ := (not_later_iff hn hc).1 hlater
      exact ⟨number, c, rest, hp, hb, a, ha, hpa⟩
  · intro c hc hlater
    obtain ⟨number, rest, hp⟩ := (not_later_iff hn hc).1 hlater
    exact ⟨_, mem_stack.2 ⟨number, c, rest, hp, rfl⟩, replaced hp⟩
  · intro s hsm
    obtain ⟨number, first, rest, hp, rfl⟩ := mem_stack.1 hsm
    have hm := mem_of_block hp List.mem_cons_self
    exact ⟨first, hm, (not_later_iff hn hm).2 ⟨number, rest, hp⟩, replaced hp⟩

/-- A run of two solution containers between two others, and a run of one. -/
def forkedRun : List Container := [
  { name := "fetch", image := "fetch", dependencies := some [rootDependency] },
  { name := "prepare", image := "solution", solutionContainer := true,
    dependencies := some ["fetch"] },
  { name := "run", image := "solution", solutionContainer := true,
    dependencies := some ["prepare", "fetch"] },
  { name := "send", image := "send", dependencies := some ["run", "fetch", "prepare"] },
  { name := "report", image := "solution", solutionContainer := true,
    dependencies := some ["send"] }]

theorem forkedRun_quotient : ∃ graph stacked newName, of forkedRun = .ok graph ∧
    of (stack forkedRun) = .ok stacked ∧ MergesRuns forkedRun newName ∧
    ∀ producer consumer, (producer, consumer) ∈ stacked.edges ↔
      ∃ a b, (a, b) ∈ graph.edges ∧ ¬ Later forkedRun b ∧
        newName a = producer ∧ newName b = consumer := by
  have hg : of forkedRun = .ok _ := rfl
  have hroot : ∀ c ∈ forkedRun, c.name ≠ rootDependency := by decide
  have hstem : ∀ c ∈ forkedRun, stem c.name ≠ "multipleStepsContainer".toList := by decide
  obtain ⟨stacked, newName, hs, hm, he, -, -⟩ :=
    stacked_graph_is_quotient hg hroot fun number _ _ c hc h =>
      hstem c hc (by rw [h, stem_mergedName])
  exact ⟨_, stacked, newName, hg, hs, hm, he⟩

end ScenarioCompiler.Stack
