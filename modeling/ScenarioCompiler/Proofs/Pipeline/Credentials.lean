import ScenarioCompiler.Proofs.Pipeline.FetchedWith
import ScenarioCompiler.Proofs.Pipeline.Relational
import ScenarioCompiler.Proofs.Step.ChangedSettings

namespace ScenarioCompiler.Pipeline

open Stage

/-- What a change of the settings can reach: the containers that fetch with certain connectors,
those that fetch or send the parameters as the platform itself, and those of the solution. -/
structure Reach where
  connector : Connector → Prop
  platform : Prop
  solution : Prop

/-- Other settings give a run the same containers, save those that the change can reach. -/
structure Reach.Bounds (reach : Reach) (run : RunContext) (other : PlatformSettings) : Prop where
  fetchDataset : ∀ dataset connector target dependencies, ¬ reach.connector connector →
    Step.fetchDataset { run with settings := other } dataset connector target dependencies =
      Step.fetchDataset run dataset connector target dependencies
  fetchParameters : ¬ reach.platform → ∀ asJson dependencies,
    Step.fetchParameters { run with settings := other } asJson dependencies =
      Step.fetchParameters run asJson dependencies
  sendToWarehouse : ¬ reach.platform → ∀ content dependencies,
    Step.sendToWarehouse { run with settings := other } content dependencies =
      Step.sendToWarehouse run content dependencies
  runSolution : ¬ reach.solution → ∀ checker solution templateId step dependencies sizing,
    Step.runSolution { run with settings := other } checker solution templateId step dependencies
        sizing = Step.runSolution run checker solution templateId step dependencies sizing

/-- A container of a run and its counterpart after a change of the settings: they are equal if the
change cannot reach the container. -/
structure Confined (request : RunRequest) (reach : Reach) (c d : Container) : Prop where
  name : d.name = c.name
  dependencies : d.dependencies = c.dependencies
  solutionContainer : d.solutionContainer = c.solutionContainer
  unfetched : c.solutionContainer = true → ∀ connector, ¬ FetchedWith request c.name connector
  fetched : c.solutionContainer = false → c.name = Step.fetchParametersName ∨
    c.name = Step.warehouseName ∨ ∃ connector, FetchedWith request c.name connector
  eq_of_solution : c.solutionContainer = true → ¬ reach.solution → d = c
  eq_of_fetched : c.solutionContainer = false → ∀ connector, FetchedWith request c.name connector →
    ¬ reach.connector connector → d = c
  eq_of_unfetched : c.solutionContainer = false →
    (∀ connector, ¬ FetchedWith request c.name connector) → ¬ reach.platform → d = c

variable {request : RunRequest} {reach : Reach} {run : RunContext} {other : PlatformSettings}

theorem congruence_confined : Container.Congruence (Confined request reach) where
  name h := h.name
  dependencies h := h.dependencies
  solutionContainer h := h.solutionContainer
  waiting names h := {
    name := h.name
    dependencies := rfl
    solutionContainer := h.solutionContainer
    unfetched := h.unfetched
    fetched := h.fetched
    eq_of_solution := fun hs hr => by rw [h.eq_of_solution hs hr]
    eq_of_fetched := fun hs connector hf hr => by rw [h.eq_of_fetched hs connector hf hr]
    eq_of_unfetched := fun hs hf hr => by rw [h.eq_of_unfetched hs hf hr] }
  merged {c d cs ds} number h hs := by
    have hcd : Confined request reach c d := (List.forall₂_cons.1 h).1
    have hc := hs c List.mem_cons_self
    have plain {p : Prop} (hp : c.solutionContainer = false) : p := by simp [hc] at hp
    exact {
      name := rfl
      dependencies := hcd.dependencies
      solutionContainer := hcd.solutionContainer
      unfetched := fun _ _ => FetchedWith.not_mergedName number
      fetched := plain
      eq_of_solution := fun _ hr => by
        -- the members are the same with both settings, hence what is merged from them
        have heq : List.Forall₂ (· = ·) (c :: cs) (d :: ds) :=
          ((List.forall₂_and_left _ _).2 ⟨hs, h⟩).imp fun x y hxy =>
            (hxy.2.eq_of_solution hxy.1 hr).symm
        rw [List.forall₂_eq_eq_eq] at heq
        obtain ⟨rfl, rfl⟩ := List.cons.inj heq
        rfl
      eq_of_fetched := plain
      eq_of_unfetched := plain }

/-! ### Stages -/

/-- A container that fetches no dataset and does not run the solution, built with both settings. -/
theorem confined_of_map {x y : Except Failure Container} {name : String}
    (hname : name = Step.fetchParametersName ∨ name = Step.warehouseName)
    {dependencies : Option (List String)} {cs ds : List Container}
    (hx : ∀ c, x = .ok c → c.name = name ∧ c.dependencies = dependencies ∧
      c.solutionContainer = false)
    (hy : ∀ d, y = .ok d → d.name = name ∧ d.dependencies = dependencies ∧
      d.solutionContainer = false)
    (heq : ¬ reach.platform → y = x) (h : x.map ([·]) = .ok cs) (h' : y.map ([·]) = .ok ds) :
    List.Forall₂ (Confined request reach) cs ds := by
  obtain ⟨c, hc, rfl⟩ := map_eq_ok.1 h
  obtain ⟨d, hd, rfl⟩ := map_eq_ok.1 h'
  obtain ⟨rfl, hdependencies, hplain⟩ := hx c hc
  obtain ⟨hname', hdependencies', hplain'⟩ := hy d hd
  have hunfetched : ∀ connector, ¬ FetchedWith request c.name connector := by
    rcases hname with he | he <;> rw [he]
    · exact fun _ => FetchedWith.not_fetchParametersName
    · exact fun _ => FetchedWith.not_warehouseName
  refine .cons ?_ .nil
  exact {
    name := hname'
    dependencies := hdependencies'.trans hdependencies.symm
    solutionContainer := hplain'.trans hplain.symm
    unfetched := fun hs => by simp [hplain] at hs
    fetched := fun _ => hname.imp_right .inl
    eq_of_solution := fun hs => by simp [hplain] at hs
    eq_of_fetched := fun _ connector hf => absurd hf (hunfetched connector)
    eq_of_unfetched := fun _ _ hr => by
      rw [heq hr, hc] at hd
      exact (Except.ok.inj hd).symm }

theorem confined_of_fetchNumbered (hb : reach.Bounds run other) {forParameter : Bool}
    {dependencies : Option (List String)} {items : List (Option String × String)}
    {cs ds : List Container}
    (hitems : ∀ entry ∈ items.zipIdx 1, ∀ dataset connector,
      (catalogOf request).Supplies entry.1.2 dataset connector →
        FetchedWith request (Step.fetchName forParameter entry.2) connector)
    (h : Step.fetchNumbered run (catalogOf request) forParameter dependencies 1 items = .ok cs)
    (h' : Step.fetchNumbered { run with settings := other } (catalogOf request) forParameter
      dependencies 1 items = .ok ds) : List.Forall₂ (Confined request reach) cs ds := by
  refine forall₂_of_common (Step.fetchNumbered_eq_ok_iff.1 h) (Step.fetchNumbered_eq_ok_iff.1 h') ?_
  rintro entry hm c d ⟨dataset, connector, hs, hc⟩ ⟨dataset', connector', hs', hd⟩
  -- the catalog is that of the request, whatever the settings, so both fetch the same dataset
  obtain ⟨rfl, rfl⟩ := hs.unique hs'
  have hf := hitems entry hm dataset connector hs
  obtain ⟨hname', hdependencies', hplain'⟩ := Step.fetchDataset_eq_ok hd
  obtain ⟨hname, hdependencies, hplain⟩ := Step.fetchDataset_eq_ok hc
  change c.name = Step.fetchName forParameter entry.2 at hname
  rw [← hname] at hf
  exact {
    name := hname'.trans hname.symm
    dependencies := hdependencies'.trans hdependencies.symm
    solutionContainer := hplain'.trans hplain.symm
    unfetched := fun hsol => by simp [hplain] at hsol
    fetched := fun _ => .inr (.inr ⟨connector, hf⟩)
    eq_of_solution := fun hsol => by simp [hplain] at hsol
    eq_of_fetched := fun _ used hused hr => by
      obtain rfl := hused.unique hf
      rw [hb.fetchDataset _ _ _ _ hr, hc] at hd
      exact (Except.ok.inj hd).symm
    eq_of_unfetched := fun _ hn => absurd hf (hn connector) }

section Stages

variable {settings : PlatformSettings} {checker : EventHubChecker} {csmSimulationId : String}
  {template : RunTemplate}
  (hb : reach.Bounds (inputWith settings checker request csmSimulationId template).run other)

include hb

theorem datasetFetch_matches : Matches (Confined request reach)
    (inputWith settings checker request csmSimulationId template).datasetFetch
    (inputWith other checker request csmSimulationId template).datasetFetch where
  enabled := rfl
  advancesFrontier := rfl
  rootWhenFirst := rfl
  built _ _ _ h h' := confined_of_fetchNumbered hb fetchedWith_of_datasetList h h'

theorem datasetParameterFetch_matches : Matches (Confined request reach)
    (inputWith settings checker request csmSimulationId template).datasetParameterFetch
    (inputWith other checker request csmSimulationId template).datasetParameterFetch where
  enabled := rfl
  advancesFrontier := rfl
  rootWhenFirst := rfl
  built _ cs ds h h' := by
    obtain ⟨hnone, hn⟩ := Step.fetchDatasetParameters_eq_ok h
    obtain ⟨-, hn'⟩ := Step.fetchDatasetParameters_eq_ok h'
    exact confined_of_fetchNumbered hb (fetchedWith_of_namedDatasets hnone) hn hn'

theorem scenarioParameterFetch_matches : Matches (Confined request reach)
    (inputWith settings checker request csmSimulationId template).scenarioParameterFetch
    (inputWith other checker request csmSimulationId template).scenarioParameterFetch where
  enabled := rfl
  advancesFrontier := rfl
  rootWhenFirst := rfl
  built _ cs ds h h' := by
    exact confined_of_map (.inl rfl) (fun _ => Step.fetchParameters_eq_ok)
      (fun _ => Step.fetchParameters_eq_ok) (fun hr => hb.fetchParameters hr _ _) h h'

theorem sendToWarehouse_matches : Matches (Confined request reach)
    (inputWith settings checker request csmSimulationId template).sendToWarehouse
    (inputWith other checker request csmSimulationId template).sendToWarehouse where
  enabled := rfl
  advancesFrontier := rfl
  rootWhenFirst := rfl
  built _ cs ds h h' := by
    exact confined_of_map (.inr rfl) (fun _ => Step.sendToWarehouse_eq_ok)
      (fun _ => Step.sendToWarehouse_eq_ok) (fun hr => hb.sendToWarehouse hr _ _) h h'

theorem solutionStage_matches (kind : StageKind) (step : SolutionStep) :
    Matches (Confined request reach)
      ((inputWith settings checker request csmSimulationId template).solutionStage kind step)
      ((inputWith other checker request csmSimulationId template).solutionStage kind step) where
  enabled := rfl
  advancesFrontier := rfl
  rootWhenFirst := rfl
  built _ cs ds h h' := by
    obtain ⟨c, hc, rfl⟩ := (Input.solutionStage_eq_ok _).1 h
    obtain ⟨d, hd, rfl⟩ := (Input.solutionStage_eq_ok _).1 h'
    obtain ⟨hname, hdependencies, hsolution, -⟩ := Step.runSolution_eq_ok hc
    obtain ⟨hname', hdependencies', hsolution', -⟩ := Step.runSolution_eq_ok hd
    have plain {p : Prop} (hp : c.solutionContainer = false) : p := by simp [hsolution] at hp
    refine .cons ?_ .nil
    exact {
      name := hname'.trans hname.symm
      dependencies := hdependencies'.trans hdependencies.symm
      solutionContainer := hsolution'.trans hsolution.symm
      unfetched := fun _ _ => hname ▸ FetchedWith.not_step step
      fetched := plain
      eq_of_solution := fun _ hr => by
        have heq := hb.runSolution hr checker request.solution template.id step
        exact Except.ok.inj (hd.symm.trans ((congrArg Traced.outcome (heq _ _)).trans hc))
      eq_of_fetched := plain
      eq_of_unfetched := plain }

/-- The stages of a run and those of it with other settings build containers that differ only where
the change reaches. -/
theorem stages_matches : List.Forall₂ (Matches (Confined request reach))
    (inputWith settings checker request csmSimulationId template).stages
    (inputWith other checker request csmSimulationId template).stages :=
  .cons (datasetFetch_matches hb) <| .cons (scenarioParameterFetch_matches hb) <|
    .cons (datasetParameterFetch_matches hb) <| .cons (solutionStage_matches hb _ _) <|
    .cons (solutionStage_matches hb _ _) <| .cons (sendToWarehouse_matches hb) <|
    .cons (solutionStage_matches hb _ _) <| .cons (solutionStage_matches hb _ _) <|
    .cons (solutionStage_matches hb _ _) .nil

end Stages

theorem Input.arrange_congr {R : Container → Container → Prop} (hR : Container.Congruence R)
    {input other : Input} (ht : other.template = input.template) {linked others : List Container}
    (h : List.Forall₂ R linked others) :
    List.Forall₂ R (input.arrange linked) (other.arrange others) := by
  unfold arrange
  rw [ht]
  split
  · exact Stack.stack_congr hR h
  · exact h

variable {settings : PlatformSettings} {checker : EventHubChecker} {csmSimulationId : String}
  {compiled changed : List Container}

/-- A change of the settings changes a compiled run only where it reaches. -/
theorem confined_containers
    (hb : ∀ run : RunContext, run.settings = settings → reach.Bounds run other)
    (h : (containers settings checker request csmSimulationId).outcome = .ok compiled)
    (h' : (containers other checker request csmSimulationId).outcome = .ok changed) :
    List.Forall₂ (Confined request reach) compiled changed := by
  obtain ⟨template, linked, ht, hl, rfl⟩ := containers_eq_ok.1 h
  obtain ⟨template', linked', ht', hl', rfl⟩ := containers_eq_ok.1 h'
  obtain rfl := Except.ok.inj (ht.symm.trans ht')
  have hlinked := Linked.congr congruence_confined hl hl' (stages_matches (hb _ rfl))
  exact Input.arrange_congr congruence_confined rfl hlinked

/-! ### Changes of the credentials -/

open Environment in
/-- A change of the credentials or of the event bus reaches a container only through its identity,
or through the event bus. -/
theorem bounds_mapAzure {f : Settings.Azure → Settings.Azure} (hf : KeepsResources f)
    (hc : ∀ connector, ¬ reach.connector connector →
      identity (run.settings.mapAzure f) (Step.identityFlags connector) =
        identity run.settings (Step.identityFlags connector))
    (hp : ¬ reach.platform → identity (run.settings.mapAzure f) {} = identity run.settings {})
    (hs : ¬ reach.solution → identity (run.settings.mapAzure f) {} = identity run.settings {} ∧
      ∀ azure, (f azure).eventBus = azure.eventBus) :
    reach.Bounds run (run.settings.mapAzure f) where
  fetchDataset _ connector _ _ hr := Step.fetchDataset_mapAzure hf (hc connector hr)
  fetchParameters hr asJson _ := Step.fetchParameters_mapAzure hf (hp hr) asJson
  sendToWarehouse hr content _ := Step.sendToWarehouse_mapAzure hf (hp hr) content
  runSolution hr checker solution templateId step _ sizing :=
    Step.runSolution_mapAzure hf (hs hr).1 (hs hr).2 checker solution templateId step sizing

/-- The connector makes its container authenticate as the customer. -/
def AsCustomer (connector : Connector) : Prop :=
  connector.azureAuthenticationWithCustomerAppRegistration = some true

/-- The connector makes its container authenticate with a managed identity. -/
def AsManaged (connector : Connector) : Prop :=
  connector.azureManagedIdentity = some true

theorem bounds_withCustomer (customer : Option Settings.CustomerCredentials) :
    Reach.Bounds ⟨AsCustomer, False, False⟩ run (run.settings.withCustomer customer) :=
  bounds_mapAzure (by constructor <;> exact fun _ => rfl)
    (fun _ hr => Environment.identity_withCustomer hr)
    (fun _ => Environment.identity_withCustomer (by simp))
    (fun _ => ⟨Environment.identity_withCustomer (by simp), fun _ => rfl⟩)

theorem bounds_withCoreIdentity (tenantId clientId clientSecret : String) :
    Reach.Bounds ⟨fun connector => ¬ (AsManaged connector ∨ AsCustomer connector), True, True⟩ run
      (run.settings.withCoreIdentity tenantId clientId clientSecret) :=
  bounds_mapAzure (by constructor <;> exact fun _ => rfl)
    (fun _ hr => Environment.identity_withCoreIdentity (not_not.1 hr))
    (fun hr => absurd trivial hr) (fun hr => absurd trivial hr)

theorem bounds_withEventBus (eventBus : Option Settings.EventBus) :
    Reach.Bounds ⟨fun _ => False, False, True⟩ run (run.settings.withEventBus eventBus) :=
  bounds_mapAzure (by constructor <;> exact fun _ => rfl)
    (fun _ _ => Environment.identity_withEventBus) (fun _ => Environment.identity_withEventBus)
    (fun hr => absurd trivial hr)

theorem bounds_everything (run : RunContext) (other : PlatformSettings) :
    Reach.Bounds ⟨fun _ => True, True, True⟩ run other where
  fetchDataset _ _ _ _ hr := absurd trivial hr
  fetchParameters hr := absurd trivial hr
  sendToWarehouse hr := absurd trivial hr
  runSolution hr := absurd trivial hr

/-- Whatever the settings, a request is compiled to containers of the same names, and each of them
that fetches a dataset does so with one connector. Other credentials of the customer change only
containers whose connector authenticates as the customer; another identity of the platform changes
no container whose connector authenticates in another way; another event bus changes only the
containers of the solution. -/
theorem credentials_confined
    (h : (containers settings checker request csmSimulationId).outcome = .ok compiled)
    (h' : (containers other checker request csmSimulationId).outcome = .ok changed) :
    (changed.length = compiled.length ∧ changed.map (·.name) = compiled.map (·.name) ∧
      ∀ c ∈ compiled, c.solutionContainer = false → c.name = Step.fetchParametersName ∨
        c.name = Step.warehouseName ∨ ∃! connector, FetchedWith request c.name connector) ∧
    (∀ customer, other = settings.withCustomer customer →
      List.Forall₂ (fun c d => d = c ∨ c.solutionContainer = false ∧
        ∃ connector, FetchedWith request c.name connector ∧ AsCustomer connector)
        compiled changed) ∧
    (∀ tenantId clientId clientSecret,
      other = settings.withCoreIdentity tenantId clientId clientSecret →
      List.Forall₂ (fun c d => ∀ connector, FetchedWith request c.name connector →
        AsManaged connector ∨ AsCustomer connector → d = c) compiled changed) ∧
    ∀ eventBus, other = settings.withEventBus eventBus →
      List.Forall₂ (fun c d => c.solutionContainer = false → d = c) compiled changed := by
  refine ⟨?_, ?_, ?_, ?_⟩
  · have hall := confined_containers (fun run _ => bounds_everything run other) h h'
    have hfetched := forall_mem_of_forall₂ hall fun _ _ hcd => hcd.fetched
    refine ⟨hall.length_eq.symm, congruence_confined.names_eq hall, fun c hc hs => ?_⟩
    exact (hfetched c hc hs).imp_right fun h => h.imp_right fun ⟨connector, hf⟩ =>
      ⟨connector, hf, fun _ hused => hused.unique hf⟩
  · rintro customer rfl
    have hall := confined_containers
      (by rintro run rfl; exact bounds_withCustomer customer) h h'
    refine hall.imp fun c d hcd => ?_
    cases hs : c.solutionContainer with
    | true => exact .inl (hcd.eq_of_solution hs id)
    | false =>
      by_cases hf : ∃ connector, FetchedWith request c.name connector
      · obtain ⟨connector, hf⟩ := hf
        by_cases hcustomer : AsCustomer connector
        · exact .inr ⟨rfl, connector, hf, hcustomer⟩
        · exact .inl (hcd.eq_of_fetched hs connector hf hcustomer)
      · exact .inl (hcd.eq_of_unfetched hs (not_exists.1 hf) id)
  · rintro tenantId clientId clientSecret rfl
    have hall := confined_containers
      (by rintro run rfl; exact bounds_withCoreIdentity tenantId clientId clientSecret) h h'
    refine hall.imp fun c d hcd connector hf hflag => ?_
    cases hs : c.solutionContainer with
    | true => exact absurd hf (hcd.unfetched hs connector)
    | false => exact hcd.eq_of_fetched hs connector hf (not_not.2 hflag)
  · rintro eventBus rfl
    have hall := confined_containers
      (by rintro run rfl; exact bounds_withEventBus eventBus) h h'
    refine hall.imp fun c d hcd hs => ?_
    by_cases hf : ∃ connector, FetchedWith request c.name connector
    · obtain ⟨connector, hf⟩ := hf
      exact hcd.eq_of_fetched hs connector hf id
    · exact hcd.eq_of_unfetched hs (not_exists.1 hf) id

/-- A platform whose customer has credentials with the given secret. -/
def customerPlatform (secret : String) : PlatformSettings :=
  smallPlatform.withCustomer (some ⟨some "tenant", some "client", some secret⟩)

/-- A stacked request that fetches one dataset as the customer and one as the platform. -/
def customerRequest : RunRequest :=
  { smallRequest (some true) with
    scenario := { (smallRequest (some true)).scenario with datasetList := ["d-1", "d-2"] }
    datasets := [⟨"d-1", none, some ⟨some "c-1", none, none, .empty⟩⟩,
      ⟨"d-2", none, some ⟨some "c-2", none, none, .empty⟩⟩]
    connectors := [⟨"c-1", none, none, "connector", none, none, some true, []⟩,
      ⟨"c-2", none, none, "connector", none, none, none, []⟩] }

theorem customerRequest_confined : ∃ compiled changed,
    (containers (customerPlatform "old") none customerRequest "id").outcome = .ok compiled ∧
    (containers (customerPlatform "new") none customerRequest "id").outcome = .ok changed ∧
    compiled.map (·.envValue? "AZURE_CLIENT_SECRET") =
      [some "old", some "secret", some "secret", some "secret", some "secret", some "secret"] ∧
    (changed.map (·.envValue? "AZURE_CLIENT_SECRET")).head? = some (some "new") ∧
    List.Forall₂ (fun c d => d = c ∨ c.solutionContainer = false ∧
      ∃ connector, FetchedWith customerRequest c.name connector ∧ AsCustomer connector)
      compiled changed := by
  have hold : (containers (customerPlatform "old") none customerRequest "id").outcome.map
      (·.map (·.envValue? "AZURE_CLIENT_SECRET")) = .ok [some "old", some "secret", some "secret",
        some "secret", some "secret", some "secret"] := by
    decide +kernel
  have hnew : (containers (customerPlatform "new") none customerRequest "id").outcome.map
      (fun cs => (cs.map (·.envValue? "AZURE_CLIENT_SECRET")).head?) = .ok (some (some "new")) := by
    decide +kernel
  obtain ⟨compiled, h, hsecrets⟩ := map_eq_ok.1 hold
  obtain ⟨changed, h', hsecret⟩ := map_eq_ok.1 hnew
  exact ⟨compiled, changed, h, h', hsecrets, hsecret, (credentials_confined h h').2.1 _ rfl⟩

end ScenarioCompiler.Pipeline
