import ScenarioCompiler.Failure
import ScenarioCompiler.Request.Basic
import ScenarioCompiler.Settings.Basic
import ScenarioCompiler.Text.LowerCase
import ScenarioCompiler.Traced

namespace ScenarioCompiler

/-- An event hub of a namespace host. -/
structure EventHub where
  host : String
  name : String
  deriving DecidableEq, Repr

/-- Tells whether an event hub exists; without a checker none is asked for. -/
abbrev EventHubChecker := Option (EventHub → Bool)

/-- A computation that may ask for event hubs; the hubs it asked for are its log. -/
abbrev Compile := Traced EventHub Failure

namespace EventHub

def protocol : String := "amqps://"

/-- The host and path of an address in lower case. -/
def removeProtocol (uri : String) : String :=
  let uri := Text.lowerChars uri.toList
  if protocol.toList.isPrefixOf uri then String.ofList (uri.drop protocol.length)
  else String.ofList uri

/-- Asks a checker for an event hub. -/
def exists? (checker : EventHubChecker) (hub : EventHub) : Compile Bool :=
  match checker with
  | none => pure false
  | some check => do
    Traced.record hub
    pure (check hub)

def policyProperty : String :=
  "csm.platform.azure.eventBus.authentication.sharedAccessPolicy.namespace"

/-- The credentials for the event bus that a container needs besides its own identity. -/
def credentials (bus : Settings.EventBus) : Except Failure (Table String) :=
  match bus.authentication.strategy with
  | .tenantClientCredentials => .ok []
  | .sharedAccessPolicy =>
    let policy := bus.authentication.sharedAccessPolicy.bind (·.namespaceCredentials)
    match policy.bind (·.name), policy.bind (·.key) with
    | none, _ => .error (.missingConfiguration (policyProperty ++ ".name"))
    | some _, none => .error (.missingConfiguration (policyProperty ++ ".key"))
    | some name, some key => .ok [
        ("AZURE_EVENT_HUB_SHARED_ACCESS_POLICY", name),
        ("AZURE_EVENT_HUB_SHARED_ACCESS_KEY", key),
        ("CSM_AMQPCONSUMER_USER", name),
        ("CSM_AMQPCONSUMER_PASSWORD", key),
        ("CSM_CONTROL_PLANE_USER", name),
        ("CSM_CONTROL_PLANE_PASSWORD", key)]

/-- The topics of a workspace, and the event hub behind the one of the control plane. -/
structure Topics where
  measures : String
  controlPlane : String
  hub : EventHub
  deriving DecidableEq, Repr

/-- In a namespace of its own a workspace has topics of fixed names; in the shared namespace their
names begin with the name of the workspace. -/
def topics (bus : Settings.EventBus) (organization : Organization) (workspace : Workspace) :
    Topics :=
  let name := Text.lowerCase (organization.id ++ "-" ++ workspace.key)
  if workspace.useDedicatedEventHubNamespace == some true then
    let host := name ++ ".servicebus.windows.net"
    { measures := protocol ++ host ++ "/probesmeasures"
      controlPlane := protocol ++ host ++ "/scenariorun"
      hub := ⟨host, "scenariorun"⟩ }
  else
    let measures := Text.lowerCase (bus.baseUri ++ "/" ++ name)
    { measures
      controlPlane := measures ++ "-scenariorun"
      hub := ⟨removeProtocol bus.baseUri, name ++ "-scenariorun"⟩ }

/-- The variables of the event bus: the topic of the control plane is given only if its event hub
exists, which is asked for once the rest is known to be configured. -/
def environment (settings : PlatformSettings) (organization : Organization)
    (workspace : Workspace) (checker : EventHubChecker) : Compile (Table String) :=
  match settings.azure.bind (·.eventBus) with
  | none => Traced.fail (.missingConfiguration "csm.platform.azure.eventBus")
  | some bus => do
    let credentials ← (credentials bus : Except Failure (Table String))
    let topics := topics bus organization workspace
    let found ← exists? checker topics.hub
    let controlPlane := if found then [("CSM_CONTROL_PLANE_TOPIC", topics.controlPlane)] else []
    pure (("CSM_PROBES_MEASURES_TOPIC", topics.measures) :: controlPlane ++ credentials)

end EventHub

end ScenarioCompiler
