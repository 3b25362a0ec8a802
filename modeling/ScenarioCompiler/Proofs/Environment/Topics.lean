import ScenarioCompiler.Proofs.Pipeline.Probes
import ScenarioCompiler.Proofs.Step.Variables
import ScenarioCompiler.Proofs.Text.LowerCase

namespace ScenarioCompiler.EventHub

variable {settings : PlatformSettings} {bus : Settings.EventBus} {organization : Organization}
  {workspace : Workspace} {checker : EventHubChecker} {env shared : Table String}

/-! ### Addresses of topics -/

/-- What the topics of a workspace have in front of the host: the address of the shared namespace
may be given without the protocol. -/
def scheme (bus : Settings.EventBus) (workspace : Workspace) : String :=
  if workspace.useDedicatedEventHubNamespace = some true ∨
      protocol.toList <+: (Text.lowerCase bus.baseUri).toList then protocol
  else ""

theorem removeProtocol_of_append {uri : String} {rest : List Char}
    (h : (Text.lowerCase uri).toList = protocol.toList ++ rest) :
    removeProtocol uri = String.ofList rest := by
  have hlower : Text.lowerChars uri.toList = protocol.toList ++ rest := by
    rw [← h, Text.lowerCase, String.toList_ofList]
  have hprefix : protocol.toList.isPrefixOf (protocol.toList ++ rest) = true :=
    List.isPrefixOf_iff_prefix.2 (List.prefix_append _ _)
  unfold removeProtocol
  rw [hlower, if_pos hprefix, ← String.length_toList, List.drop_left]

theorem removeProtocol_of_not_prefix {uri : String}
    (h : ¬ protocol.toList <+: (Text.lowerCase uri).toList) :
    removeProtocol uri = Text.lowerCase uri := by
  rw [Text.lowerCase, String.toList_ofList, ← List.isPrefixOf_iff_prefix] at h
  exact if_neg h

theorem scheme_append_removeProtocol (h : workspace.useDedicatedEventHubNamespace ≠ some true) :
    scheme bus workspace ++ removeProtocol bus.baseUri = Text.lowerCase bus.baseUri := by
  by_cases hp : protocol.toList <+: (Text.lowerCase bus.baseUri).toList
  · have hs : scheme bus workspace = protocol := if_pos (.inr hp)
    obtain ⟨rest, hrest⟩ := hp
    rw [hs, removeProtocol_of_append hrest.symm, ← String.toList_inj, String.toList_append,
      String.toList_ofList, hrest]
  · have hs : scheme bus workspace = "" := if_neg (not_or.2 ⟨h, hp⟩)
    rw [hs, removeProtocol_of_not_prefix hp, String.empty_append]

/-- The name of a workspace in an event bus. -/
def hubPrefix (organization : Organization) (workspace : Workspace) : String :=
  Text.lowerCase (organization.id ++ "-" ++ workspace.key)

/-- The host of the namespace that a workspace has for itself. -/
def dedicatedHost (organization : Organization) (workspace : Workspace) : String :=
  hubPrefix organization workspace ++ ".servicebus.windows.net"

/-- How the topics of a workspace are named after a hub: in a namespace of its own with fixed names,
in the shared one after the organization and the workspace. -/
structure NamedAfter (bus : Settings.EventBus) (organization : Organization)
    (workspace : Workspace) (hub : EventHub) (measures : String) : Prop where
  dedicated : workspace.useDedicatedEventHubNamespace = some true →
    hub.host = dedicatedHost organization workspace ∧ measures = "probesmeasures" ∧
      hub.name = "scenariorun"
  shared : workspace.useDedicatedEventHubNamespace ≠ some true →
    scheme bus workspace ++ hub.host = Text.lowerCase bus.baseUri ∧
      measures = hubPrefix organization workspace ∧ hub.name = measures ++ "-scenariorun"

theorem append_slash (host name : String) : host ++ ("/" ++ name) = host ++ "/" ++ name :=
  String.append_assoc.symm

theorem topics_of_dedicated (h : workspace.useDedicatedEventHubNamespace = some true) :
    topics bus organization workspace =
      { measures := protocol ++ dedicatedHost organization workspace ++ "/" ++ "probesmeasures"
        controlPlane := protocol ++ dedicatedHost organization workspace ++ "/" ++ "scenariorun"
        hub := ⟨dedicatedHost organization workspace, "scenariorun"⟩ } := by
  rw [← append_slash, ← append_slash, topics, if_pos (by simpa using h)]
  rfl

theorem topics_of_shared (h : workspace.useDedicatedEventHubNamespace ≠ some true) :
    let name := hubPrefix organization workspace
    topics bus organization workspace =
      { measures := Text.lowerCase bus.baseUri ++ "/" ++ name
        controlPlane := Text.lowerCase bus.baseUri ++ "/" ++ (name ++ "-scenariorun")
        hub := ⟨removeProtocol bus.baseUri, name ++ "-scenariorun"⟩ } := by
  intro name
  rw [topics, if_neg (by simpa using h), Text.lowerCase_slash, ← String.append_assoc]
  rfl

/-- Both topics are addresses on the host of the hub behind the control plane. -/
theorem exists_namedAfter (bus : Settings.EventBus) (organization : Organization)
    (workspace : Workspace) :
    let topics := topics bus organization workspace
    ∃ measures, NamedAfter bus organization workspace topics.hub measures ∧
      topics.measures = scheme bus workspace ++ topics.hub.host ++ "/" ++ measures ∧
      topics.controlPlane = scheme bus workspace ++ topics.hub.host ++ "/" ++ topics.hub.name := by
  by_cases hd : workspace.useDedicatedEventHubNamespace = some true
  · have hs : scheme bus workspace = protocol := if_pos (.inl hd)
    rw [topics_of_dedicated hd, hs]
    exact ⟨"probesmeasures", ⟨fun _ => ⟨rfl, rfl, rfl⟩, fun h => absurd hd h⟩, rfl, rfl⟩
  · -- the address is lower-cased before and after the name is joined to it
    have hs : scheme bus workspace ++ removeProtocol bus.baseUri = Text.lowerCase bus.baseUri :=
      scheme_append_removeProtocol hd
    have haddress (name : String) : Text.lowerCase bus.baseUri ++ "/" ++ name =
        scheme bus workspace ++ removeProtocol bus.baseUri ++ "/" ++ name := by
      rw [hs]
    rw [topics_of_shared hd]
    exact ⟨_, ⟨fun h => absurd h hd, fun _ => ⟨hs, rfl, rfl⟩⟩, haddress _, haddress _⟩

/-! ### The variables -/

theorem outcome_exists? (checker : EventHubChecker) (hub : EventHub) :
    (exists? checker hub).outcome = .ok (checker.any (· hub)) := by
  cases checker <;> rfl

/-- The variable of the control plane, if its hub was found. -/
def controlPlaneEntry (checker : EventHubChecker) (topics : Topics) : Table String :=
  if checker.any (· topics.hub) then [("CSM_CONTROL_PLANE_TOPIC", topics.controlPlane)] else []

/-- The variables of the event bus, where the credentials for it are known. -/
def busVariables (checker : EventHubChecker) (topics : Topics) (shared : Table String) :
    Table String :=
  ("CSM_PROBES_MEASURES_TOPIC", topics.measures) :: controlPlaneEntry checker topics ++ shared

theorem environment_eq_ok :
    (environment settings organization workspace checker).outcome = .ok env ↔
      ∃ bus shared, settings.azure.bind (·.eventBus) = some bus ∧ credentials bus = .ok shared ∧
        env = busVariables checker (topics bus organization workspace) shared := by
  unfold environment
  cases settings.azure.bind (·.eventBus) with
  | none => simp
  | some bus =>
    simp only [Traced.outcome_bind, Traced.outcome_liftM, Traced.outcome_pure, outcome_exists?,
      bind_eq_ok, Except.ok.injEq, Option.some.injEq, exists_eq_left', exists_and_left]
    exact exists_congr fun _ => and_congr_right fun _ => eq_comm

def topicNames : List String := ["CSM_PROBES_MEASURES_TOPIC", "CSM_CONTROL_PLANE_TOPIC"]

/-- The variables besides the topics. -/
def withoutTopics (env : Table String) : Table String := env.filter fun e => e.1 ∉ topicNames

variable {layout : Topics}

theorem notMem_topicNames (h : credentials bus = .ok shared) :
    ∀ name ∈ Table.names shared, name ∉ topicNames := by
  have hapart : ∀ name ∈ credentialNames, name ∉ topicNames := by decide
  exact fun name hn => hapart name ((names_credentials_sublist h).subset hn)

theorem nodup_names_variables (h : credentials bus = .ok shared) :
    (Table.names (busVariables checker layout shared)).Nodup := by
  have htopics : (Table.names (("CSM_PROBES_MEASURES_TOPIC", layout.measures) ::
      controlPlaneEntry checker layout)).Sublist topicNames := by
    unfold controlPlaneEntry
    split
    · exact List.Sublist.refl _
    · exact List.sublist_append_left _ _
  -- in the order of the variables, whichever of them are there
  have hall : (Table.names (busVariables checker layout shared)).Sublist variableNames := by
    rw [busVariables, Table.names_append]
    exact htopics.append (names_credentials_sublist h)
  exact hall.nodup (by decide)

theorem withoutTopics_variables (h : credentials bus = .ok shared) :
    withoutTopics (busVariables checker layout shared) = shared := by
  have htopics : withoutTopics (("CSM_PROBES_MEASURES_TOPIC", layout.measures) ::
      controlPlaneEntry checker layout) = [] := by
    unfold controlPlaneEntry
    split <;> simp [withoutTopics, topicNames]
  have hshared : withoutTopics shared = shared := by
    refine List.filter_eq_self.2 fun e he => ?_
    exact decide_eq_true (notMem_topicNames h _ (List.mem_map_of_mem he))
  rw [busVariables, withoutTopics, List.filter_append]
  exact congrArg₂ _ htopics hshared

theorem get?_measures :
    Table.get? (busVariables checker layout shared) "CSM_PROBES_MEASURES_TOPIC" =
      some layout.measures :=
  if_pos rfl

theorem get?_controlPlane (h : credentials bus = .ok shared) :
    Table.get? (busVariables checker layout shared) "CSM_CONTROL_PLANE_TOPIC" =
      if checker.any (· layout.hub) then some layout.controlPlane else none := by
  rw [busVariables, controlPlaneEntry, List.cons_append, Table.get?, if_neg (by simp)]
  split
  · exact if_pos rfl
  · refine Table.get?_eq_none.2 fun hn => ?_
    exact notMem_topicNames h _ hn (by decide)

/-- What the variables say about the hub behind the control plane: its topic is given if the hub is
known to exist, the topic of the measures always. -/
structure Announces (bus : Settings.EventBus) (workspace : Workspace) (checker : EventHubChecker)
    (hub : EventHub) (measures : String) (env : Table String) : Prop where
  distinct : (Table.names env).Nodup
  controlPlane : Table.get? env "CSM_CONTROL_PLANE_TOPIC" =
    if checker.any (· hub) then some (scheme bus workspace ++ hub.host ++ "/" ++ hub.name)
    else none
  measures : Table.get? env "CSM_PROBES_MEASURES_TOPIC" =
    some (scheme bus workspace ++ hub.host ++ "/" ++ measures)

/-- Without a checker no event hub is asked for. -/
theorem commits_unasked : (environment settings organization workspace none).Commits [] := by
  unfold environment
  cases settings.azure.bind (·.eventBus) with
  | none => exact .fail _
  | some bus => exact (Traced.Commits.ofExcept _).after fun _ _ => (Traced.Commits.pure false).map _

theorem log_environment_of_ok (hbus : settings.azure.bind (·.eventBus) = some bus)
    (h : (environment settings organization workspace checker).outcome = .ok env) :
    (environment settings organization workspace checker).log =
      checker.toList.map fun _ => (topics bus organization workspace).hub := by
  cases checker with
  | none => exact commits_unasked.of_ok h
  | some check =>
    rw [(commits_environment check).of_ok h, controlPlane, hbus]
    rfl

theorem log_environment_of_error {f : Failure}
    (h : (environment settings organization workspace checker).outcome = .error f) :
    (environment settings organization workspace checker).log = [] := by
  cases checker with
  | none => exact commits_unasked.of_error h
  | some check => exact (commits_environment check).of_error h

/-- The hub that is asked for is the one that the topic of the control plane leads to. -/
theorem control_plane_is_probed_hub (settings : PlatformSettings) (organization : Organization)
    (workspace : Workspace) (checker : EventHubChecker) :
    let result := environment settings organization workspace checker
    (∀ f, result.outcome = .error f → result.log = []) ∧
      ∀ env, result.outcome = .ok env → ∃ bus hub measures,
        settings.azure.bind (·.eventBus) = some bus ∧
        NamedAfter bus organization workspace hub measures ∧
        result.log = checker.toList.map (fun _ => hub) ∧
        Announces bus workspace checker hub measures env ∧
        ∀ flag, ∃ other,
          (environment settings organization
            { workspace with useDedicatedEventHubNamespace := flag } checker).outcome = .ok other ∧
          withoutTopics other = withoutTopics env := by
  refine ⟨fun _ => log_environment_of_error, fun env h => ?_⟩
  have hlog {bus : Settings.EventBus} (hbus : settings.azure.bind (·.eventBus) = some bus) :=
    log_environment_of_ok hbus h
  obtain ⟨bus, shared, hbus, hc, rfl⟩ := environment_eq_ok.1 h
  obtain ⟨measures, hnamed, hmeasures, hcontrol⟩ := exists_namedAfter bus organization workspace
  refine ⟨bus, _, measures, hbus, hnamed, hlog hbus, ⟨nodup_names_variables hc, ?_, ?_⟩,
    fun flag => ⟨_, environment_eq_ok.2 ⟨bus, shared, hbus, hc, rfl⟩, ?_⟩⟩
  · rw [← hcontrol]
    exact get?_controlPlane hc
  · rw [← hmeasures]
    exact get?_measures
  · exact (withoutTopics_variables hc).trans (withoutTopics_variables hc).symm

/-- A platform whose event bus has an address in capital letters, the last one a sigma. -/
def capitalPlatform : PlatformSettings :=
  { Pipeline.smallPlatform with
    azure := Pipeline.smallPlatform.azure.map fun azure =>
      { azure with eventBus := some ⟨"AMQPS://ΟΔΟΣ", {}⟩ } }

theorem capitalPlatform_probed :
    let result (settings : PlatformSettings) :=
      environment settings ⟨"O", none⟩ ⟨"w", "Key", none, none, none⟩ (some fun _ => true)
    (result { capitalPlatform with azure := none }).log = [] ∧ ∃ env,
      (result capitalPlatform).outcome = .ok env ∧
      (result capitalPlatform).log = [⟨"οδος", "o-key-scenariorun"⟩] ∧
      Table.get? env "CSM_CONTROL_PLANE_TOPIC" = some "amqps://οδος/o-key-scenariorun" := by
  intro result
  let organization : Organization := ⟨"O", none⟩
  let workspace : Workspace := ⟨"w", "Key", none, none, none⟩
  obtain ⟨hfailed, -⟩ := control_plane_is_probed_hub { capitalPlatform with azure := none }
    organization workspace (some fun _ => true)
  obtain ⟨-, hprobed⟩ := control_plane_is_probed_hub capitalPlatform organization workspace
    (some fun _ => true)
  refine ⟨hfailed _ rfl, _, rfl, ?_⟩
  obtain ⟨bus, hub, measures, hbus, hnamed, hlog, hannounced, -⟩ := hprobed _ rfl
  obtain rfl : bus = ⟨"AMQPS://ΟΔΟΣ", {}⟩ := (Option.some.inj hbus).symm
  obtain ⟨haddress, hmeasures, hname⟩ := hnamed.shared (by decide)
  have hs : scheme ⟨"AMQPS://ΟΔΟΣ", {}⟩ workspace = protocol := by decide +kernel
  have hlower : Text.lowerCase "AMQPS://ΟΔΟΣ" = protocol ++ "οδος" := by decide +kernel
  have hprefix : hubPrefix organization workspace = "o-key" := by decide +kernel
  rw [hs, hlower] at haddress
  have hhost : hub.host = "οδος" := append_injective haddress
  have hhub : hub = ⟨"οδος", "o-key-scenariorun"⟩ := by
    rw [hmeasures, hprefix] at hname
    rw [← hhost, ← show hub.name = "o-key-scenariorun" from hname]
  subst hhub
  exact ⟨hlog, hannounced.controlPlane.trans (by rw [hs]; rfl)⟩

end ScenarioCompiler.EventHub
