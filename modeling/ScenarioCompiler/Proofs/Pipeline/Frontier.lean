import ScenarioCompiler.Failure
import ScenarioCompiler.Pipeline.Stage
import ScenarioCompiler.Proofs.LastItem
import ScenarioCompiler.Proofs.Outcome

namespace ScenarioCompiler.Stage

variable {ε : Type}

/-! ### Calls of builders -/

/-- A call of the builder of a stage with the names that its containers have to wait for. -/
structure Call (ε : Type) where
  stage : Stage (Except ε)
  given : Option (List String)

namespace Call

def result (call : Call ε) : Except ε (List Container) := call.stage.build call.given

/-- What the call has built, which is nothing if it failed. -/
def built (call : Call ε) : List Container :=
  match call.result with
  | .ok built => built
  | .error _ => []

theorem built_of_result {call : Call ε} {built : List Container} (h : call.result = .ok built) :
    call.built = built := by
  rw [Call.built, h]

/-- The stages after the call wait for what it has built. -/
def Advances (call : Call ε) : Prop := call.stage.advancesFrontier = true ∧ call.built ≠ []

/-- The call is given the names of what the closest call before it that advances has built. Where
none does, it is given the root or nothing, as its stage has it. -/
structure GivenAfter (before : List (Call ε)) (call : Call ε) : Prop where
  closest : ∀ last, IsLast Advances before last → call.given = some (last.built.map (·.name))
  first : (∀ earlier ∈ before, ¬ earlier.Advances) →
    call.given = if call.stage.rootWhenFirst then some [rootDependency] else none

end Call

/-- A stage that records the calls of its builder. -/
def watched (stage : Stage (Except ε)) : Stage (Traced (Call ε) ε) where
  kind := stage.kind
  enabled := stage.enabled
  build given := do
    Traced.record ⟨stage, given⟩
    Traced.ofExcept (stage.build given)
  advancesFrontier := stage.advancesFrontier
  rootWhenFirst := stage.rootWhenFirst

/-- What comes of linking stages, with the calls of their builders. -/
def linkWatched (frontier : List String) (stages : List (Stage (Except ε))) :
    Traced (Call ε) ε (List Container) :=
  link frontier (stages.map watched)

variable {stage : Stage (Except ε)} {stages rest before after : List (Stage (Except ε))}
  {frontier : List String} {built : List Container} {e : ε} {call : Call ε}
  {calls earlier later prior : List (Call ε)} {outcome : Except ε (List Container)}

/-- The call of a stage that comes when the given names are the frontier. -/
def callAt (stage : Stage (Except ε)) (frontier : List String) : Call ε :=
  ⟨stage, stage.dependencies frontier⟩

theorem linkWatched_of_disabled (h : stage.enabled = false) :
    linkWatched frontier (stage :: rest) = linkWatched frontier rest := by
  rw [linkWatched, List.map_cons, link]
  simp only [watched, h, Bool.false_eq_true, if_false]
  rfl

theorem linkWatched_of_error (h : stage.enabled = true)
    (hb : stage.build (stage.dependencies frontier) = .error e) :
    linkWatched frontier (stage :: rest) = ⟨[stage.callAt frontier], .error e⟩ := by
  have hd : stage.watched.dependencies frontier = stage.dependencies frontier := rfl
  rw [linkWatched, List.map_cons, link, hd]
  simp only [watched, h, if_true, hb]
  rfl

theorem linkWatched_of_ok (h : stage.enabled = true)
    (hb : stage.build (stage.dependencies frontier) = .ok built) :
    linkWatched frontier (stage :: rest) =
      ⟨stage.callAt frontier :: (linkWatched (stage.frontierAfter frontier built) rest).log,
        (linkWatched (stage.frontierAfter frontier built) rest).outcome.map (built ++ ·)⟩ := by
  have hd : stage.watched.dependencies frontier = stage.dependencies frontier := rfl
  have hf : stage.watched.frontierAfter frontier = stage.frontierAfter frontier := rfl
  rw [linkWatched, List.map_cons, link, hd, hf, linkWatched]
  simp only [watched, h, if_true, hb, bind, Traced.bind, Traced.record, Traced.ofExcept]
  rcases link (stage.frontierAfter frontier built) (rest.map watched) with ⟨log, _ | containers⟩
  · rfl
  · simp [Pure.pure, Traced.pure, Except.map, callAt]

/-- A stage that builds nothing only adds its call: the frontier stays as it was. -/
theorem linkWatched_of_empty (h : stage.enabled = true)
    (hb : stage.build (stage.dependencies frontier) = .ok []) :
    linkWatched frontier (stage :: rest) =
      ⟨stage.callAt frontier :: (linkWatched frontier rest).log,
        (linkWatched frontier rest).outcome⟩ := by
  have hf : stage.frontierAfter frontier [] = frontier := by simp [frontierAfter]
  rw [linkWatched_of_ok h hb, hf]
  rcases linkWatched frontier rest with ⟨log, _ | containers⟩ <;> rfl

/-- The first call is that of the first stage, whether it fails or not. -/
theorem exists_log_linkWatched (h : stage.enabled = true) (frontier : List String)
    (rest : List (Stage (Except ε))) :
    ∃ others, (linkWatched frontier (stage :: rest)).log = stage.callAt frontier :: others := by
  cases hb : stage.build (stage.dependencies frontier) with
  | error e => exact ⟨[], by rw [linkWatched_of_error h hb]⟩
  | ok built => exact ⟨_, by rw [linkWatched_of_ok h hb]⟩

theorem link_of_ok (h : stage.enabled = true)
    (hb : stage.build (stage.dependencies frontier) = .ok built) :
    link frontier (stage :: rest) =
      (link (stage.frontierAfter frontier built) rest).map (built ++ ·) := by
  rw [link, if_pos h, hb, ok_bind]
  cases link (stage.frontierAfter frontier built) rest <;> rfl

/-- Recording the calls changes nothing. -/
theorem outcome_linkWatched (frontier : List String) (stages : List (Stage (Except ε))) :
    (linkWatched frontier stages).outcome = link frontier stages := by
  induction stages generalizing frontier with
  | nil => rfl
  | cons stage rest ih =>
    cases h : stage.enabled with
    | false =>
      rw [linkWatched_of_disabled h, ih, link, h]
      rfl
    | true =>
      cases hb : stage.build (stage.dependencies frontier) with
      | error e =>
        rw [linkWatched_of_error h hb, link, if_pos h, hb]
        rfl
      | ok built => rw [linkWatched_of_ok h hb, link_of_ok h hb, ih]

/-! ### The order of the calls -/

/-- The builders of the enabled stages are called once each and in order, up to the first that
fails; what they have built is put together. -/
structure CallsInOrder (stages : List (Stage (Except ε))) (calls : List (Call ε))
    (outcome : Except ε (List Container)) : Prop where
  finished : ∀ containers, outcome = .ok containers →
    calls.map (·.stage) = stages.filter (·.enabled) ∧
    (∀ call ∈ calls, call.result = .ok call.built) ∧ containers = calls.flatMap (·.built)
  failed : ∀ e, outcome = .error e → ∃ earlier call uncalled, calls = earlier ++ [call] ∧
    (∀ other ∈ earlier, other.result = .ok other.built) ∧ call.result = .error e ∧
    stages.filter (·.enabled) = calls.map (·.stage) ++ uncalled

/-- A stage that is not enabled is not called. -/
theorem CallsInOrder.of_disabled (h : stage.enabled = false)
    (hrest : CallsInOrder rest calls outcome) : CallsInOrder (stage :: rest) calls outcome := by
  have hfilter : (stage :: rest).filter (·.enabled) = rest.filter (·.enabled) :=
    List.filter_cons_of_neg (by simp [h])
  exact ⟨fun containers ho => hfilter ▸ hrest.finished containers ho,
    fun e ho => hfilter ▸ hrest.failed e ho⟩

/-- Behind a call that fails there are no others. -/
theorem callsInOrder_of_error (h : call.stage.enabled = true) (he : call.result = .error e) :
    CallsInOrder (call.stage :: rest) [call] (.error e) where
  finished _ ho := nomatch ho
  failed other ho := by
    have hfilter : (call.stage :: rest).filter (·.enabled) =
        call.stage :: rest.filter (·.enabled) := List.filter_cons_of_pos h
    exact ⟨[], call, rest.filter (·.enabled), rfl, by simp, he.trans ho, hfilter⟩

theorem CallsInOrder.cons (h : call.stage.enabled = true) (hb : call.result = .ok built)
    (hrest : CallsInOrder rest calls outcome) :
    CallsInOrder (call.stage :: rest) (call :: calls) (outcome.map (built ++ ·)) := by
  have hfilter : (call.stage :: rest).filter (·.enabled) =
      call.stage :: rest.filter (·.enabled) := List.filter_cons_of_pos h
  obtain rfl := Call.built_of_result hb
  constructor
  · intro containers ho
    obtain ⟨later, hl, rfl⟩ := map_eq_ok.1 ho
    obtain ⟨hcalls, hok, rfl⟩ := hrest.finished later hl
    refine ⟨by rw [List.map_cons, hcalls, hfilter], List.forall_mem_cons.2 ⟨hb, hok⟩, ?_⟩
    rw [List.flatMap_cons]
  · intro e ho
    obtain ⟨earlier, last, uncalled, rfl, hok, he, hstages⟩ := hrest.failed e (map_eq_error.1 ho)
    refine ⟨call :: earlier, last, uncalled, rfl, List.forall_mem_cons.2 ⟨hb, hok⟩, he, ?_⟩
    rw [hfilter, hstages]
    rfl

theorem callsInOrder (frontier : List String) (stages : List (Stage (Except ε))) :
    CallsInOrder stages (linkWatched frontier stages).log
      (linkWatched frontier stages).outcome := by
  induction stages generalizing frontier with
  | nil =>
    exact ⟨fun containers h => ⟨rfl, List.forall_mem_nil _, (Except.ok.inj h).symm⟩,
      fun e h => nomatch h⟩
  | cons stage rest ih =>
    cases h : stage.enabled with
    | false =>
      rw [linkWatched_of_disabled h]
      exact (ih frontier).of_disabled h
    | true =>
      cases hb : stage.build (stage.dependencies frontier) with
      | error e =>
        have hresult : (stage.callAt frontier).result = .error e := hb
        rw [linkWatched_of_error h hb]
        exact callsInOrder_of_error h hresult
      | ok built =>
        have hresult : (stage.callAt frontier).result = .ok built := hb
        rw [linkWatched_of_ok h hb]
        exact (ih _).cons h hresult

/-! ### The closest call that advances -/

/-- The frontier is what the calls so far have left: the names of what the last one that advances
has built. -/
structure LeftBy (calls : List (Call ε)) (frontier : List String) : Prop where
  last : ∀ call, IsLast Call.Advances calls call → frontier = call.built.map (·.name)
  none : (∀ call ∈ calls, ¬ call.Advances) → frontier = []

theorem leftBy_nil : LeftBy ([] : List (Call ε)) [] where
  last _ h := absurd h.mem List.not_mem_nil
  none _ := rfl

theorem LeftBy.givenAfter (h : LeftBy prior frontier) (stage : Stage (Except ε)) :
    (stage.callAt frontier).GivenAfter prior where
  closest last hl := by
    have hne : frontier ≠ [] := by
      rw [h.last last hl]
      exact List.map_eq_nil_iff.not.2 hl.prop.2
    rw [callAt, dependencies, ← h.last last hl]
    simp [hne]
  first hn := by
    rw [callAt, dependencies, h.none hn]
    rfl

theorem LeftBy.snoc (h : LeftBy prior frontier)
    (hb : stage.build (stage.dependencies frontier) = .ok built) :
    LeftBy (prior ++ [stage.callAt frontier]) (stage.frontierAfter frontier built) := by
  have hbuilt : (stage.callAt frontier).built = built := Call.built_of_result hb
  have hadvances : (stage.callAt frontier).Advances ↔
      (stage.advancesFrontier && !built.isEmpty) = true := by
    rw [Call.Advances, hbuilt]
    simp [callAt]
  constructor
  · intro call hl
    rw [frontierAfter, isLast_append_singleton] at *
    rcases hl with ⟨ha, rfl⟩ | ⟨ha, hl⟩
    · rw [if_pos (hadvances.1 ha), hbuilt]
    · rw [if_neg (hadvances.not.1 ha), h.last call hl]
  · intro hn
    obtain ⟨hprior, ha⟩ := List.forall_mem_append.1 hn
    rw [frontierAfter, if_neg (hadvances.not.1 (ha _ (List.mem_singleton_self _))), h.none hprior]

theorem givenAfter (hp : LeftBy prior frontier)
    (hlog : (linkWatched frontier stages).log = earlier ++ call :: later) :
    call.GivenAfter (prior ++ earlier) := by
  -- `prior` are the calls before the stages, and each stage that builds adds its own to them
  induction stages generalizing frontier prior earlier with
  | nil => simp [linkWatched, link, Pure.pure, Traced.pure] at hlog
  | cons stage rest ih =>
    cases h : stage.enabled with
    | false =>
      rw [linkWatched_of_disabled h] at hlog
      exact ih hp hlog
    | true =>
      cases earlier with
      | nil =>
        obtain ⟨others, hothers⟩ := exists_log_linkWatched h frontier rest
        obtain ⟨rfl, -⟩ := List.cons.inj (hothers.symm.trans hlog)
        rw [List.append_nil]
        exact hp.givenAfter stage
      | cons first earlier =>
        cases hb : stage.build (stage.dependencies frontier) with
        | error e =>
          rw [linkWatched_of_error h hb] at hlog
          simp at hlog
        | ok built =>
          rw [linkWatched_of_ok h hb] at hlog
          obtain ⟨rfl, hrest⟩ := List.cons.inj hlog
          have hgiven := ih (hp.snoc hb) hrest
          rwa [List.append_assoc] at hgiven

/-! ### Stages that can be left out -/

theorem linkWatched_erase_disabled (h : stage.enabled = false) (frontier : List String)
    (before after : List (Stage (Except ε))) :
    linkWatched frontier (before ++ stage :: after) = linkWatched frontier (before ++ after) := by
  induction before generalizing frontier with
  | nil => exact linkWatched_of_disabled h
  | cons first before ih =>
    rw [List.cons_append, List.cons_append]
    cases hf : first.enabled with
    | false => rw [linkWatched_of_disabled hf, linkWatched_of_disabled hf, ih]
    | true =>
      cases hb : first.build (first.dependencies frontier) with
      | error e => rw [linkWatched_of_error hf hb, linkWatched_of_error hf hb]
      | ok built => rw [linkWatched_of_ok hf hb, linkWatched_of_ok hf hb, ih]

/-- A stage that built nothing can be left out: `earlier` are the calls of the stages before it. -/
theorem linkWatched_erase_empty {before after : List (Stage (Except ε))}
    (h : stage.enabled = true)
    (hlog : (linkWatched frontier (before ++ stage :: after)).log = earlier ++ call :: later)
    (hearlier : earlier.map (·.stage) = before.filter (·.enabled)) (hempty : call.result = .ok []) :
    linkWatched frontier (before ++ after) =
      ⟨earlier ++ later, (linkWatched frontier (before ++ stage :: after)).outcome⟩ := by
  induction before generalizing frontier earlier with
  | nil =>
    obtain rfl := List.map_eq_nil_iff.1 hearlier
    obtain ⟨others, hothers⟩ := exists_log_linkWatched h frontier after
    simp only [List.nil_append] at hlog ⊢
    obtain ⟨rfl, -⟩ := List.cons.inj (hothers.symm.trans hlog)
    rw [linkWatched_of_empty h hempty] at hlog ⊢
    obtain rfl := (List.cons.inj hlog).2
    rfl
  | cons first before ih =>
    simp only [List.cons_append] at hlog ⊢
    cases hf : first.enabled with
    | false =>
      rw [List.filter_cons_of_neg (by simp [hf])] at hearlier
      simp only [linkWatched_of_disabled hf] at hlog ⊢
      exact ih hlog hearlier
    | true =>
      rw [List.filter_cons_of_pos hf] at hearlier
      obtain ⟨head, others, rfl, -, hothers⟩ := List.map_eq_cons_iff.1 hearlier
      cases hb : first.build (first.dependencies frontier) with
      | error e =>
        rw [linkWatched_of_error hf hb] at hlog
        simp at hlog
      | ok built =>
        simp only [linkWatched_of_ok hf hb] at hlog ⊢
        obtain ⟨rfl, hrest⟩ := List.cons.inj hlog
        rw [ih hrest hothers]
        rfl

/-- Linking calls the builders of the enabled stages in order, up to the first that fails, and
gives each one what the closest call before it that advances has built. Stages that are not enabled
or that build nothing can be left out. -/
theorem link_follows_frontier (stages : List (Stage (Except ε))) :
    (linkWatched [] stages).outcome = linkAll stages ∧
    CallsInOrder stages (linkWatched [] stages).log (linkAll stages) ∧
    (∀ earlier call later, (linkWatched [] stages).log = earlier ++ call :: later →
      call.GivenAfter earlier) ∧
    ∀ before stage after, stages = before ++ stage :: after →
      (stage.enabled = false → linkWatched [] (before ++ after) = linkWatched [] stages) ∧
      ∀ earlier call later, stage.enabled = true →
        (linkWatched [] stages).log = earlier ++ call :: later →
        earlier.map (·.stage) = before.filter (·.enabled) → call.result = .ok [] →
        linkWatched [] (before ++ after) = ⟨earlier ++ later, linkAll stages⟩ := by
  have houtcome : (linkWatched [] stages).outcome = linkAll stages := outcome_linkWatched [] stages
  refine ⟨houtcome, houtcome ▸ callsInOrder [] stages,
    fun earlier call later hlog => givenAfter leftBy_nil hlog, ?_⟩
  rintro before stage after rfl
  refine ⟨fun h => (linkWatched_erase_disabled h [] before after).symm, ?_⟩
  intro earlier call later h hlog hearlier hempty
  rw [linkWatched_erase_empty h hlog hearlier hempty, houtcome]

/-- A stage that builds containers of the given names. -/
def ofNames (kind : StageKind) (names : List String) : Stage (Except Failure) where
  kind := kind
  enabled := true
  build dependencies := .ok (names.map fun name => { name, image := "image", dependencies })

/-- Two containers, a stage that builds none, a side branch and the run, which waits for the two. -/
def branchedStages : List (Stage (Except Failure)) := [
  { ofNames .datasetFetch ["unused"] with enabled := false },
  { ofNames .scenarioParameterFetch ["first", "second"] with rootWhenFirst := true },
  ofNames .datasetParameterFetch [],
  { ofNames .sendToWarehouse ["send"] with advancesFrontier := false },
  ofNames .run ["run"]]

theorem branchedStages_follow : ∃ earlier call later,
    (linkWatched [] branchedStages).log = earlier ++ call :: later ∧ call.result = .ok [] ∧
    (earlier ++ call :: later).map (·.given) =
      [some [rootDependency], some ["first", "second"], some ["first", "second"],
        some ["first", "second"]] ∧
    linkWatched [] (branchedStages.eraseIdx 2) = ⟨earlier ++ later, linkAll branchedStages⟩ := by
  obtain ⟨-, -, -, herase⟩ := link_follows_frontier branchedStages
  have hempty := (herase (branchedStages.take 2) (ofNames .datasetParameterFetch [])
    (branchedStages.drop 3) rfl).2
  exact ⟨[_], _, [_, _], rfl, rfl, rfl, hempty [_] _ [_, _] rfl rfl rfl rfl⟩

end ScenarioCompiler.Stage
