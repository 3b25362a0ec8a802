import ScenarioCompiler.Settings.Report

namespace ScenarioCompiler.Settings

/-- One request for the settings. -/
structure Call where
  source : Source
  environment : Bindings
  variablePrefix : String
  reuse : Bool

def Call.attempt [Yaml.Loader] (call : Call) : Except LoadError PlatformSettings := do
  reported (← call.source.document) call.environment call.variablePrefix

/-- Settings, and the number of the call that loaded them. -/
structure Loaded where
  settings : PlatformSettings
  loadedBy : Nat

/-- The settings that are kept between calls, and the number of calls so far. -/
structure Session where
  calls : Nat := 0
  cache : Option Loaded := none

namespace Session

/-- Answers a call: with the settings kept, if the call accepts them, and else with an attempt to
load them, of which only a success is kept. -/
def answer [Yaml.Loader] (session : Session) (call : Call) : Session × Except LoadError Loaded :=
  let fresh : Session × Except LoadError Loaded :=
    match call.attempt with
    | .ok settings =>
      let loaded : Loaded := ⟨settings, session.calls⟩
      (⟨session.calls + 1, some loaded⟩, .ok loaded)
    | .error e => (⟨session.calls + 1, none⟩, .error e)
  match session.cache with
  | none => fresh
  | some loaded =>
    if call.reuse then (⟨session.calls + 1, some loaded⟩, .ok loaded) else fresh

/-- The answers to a list of calls, each with the session after it. -/
def run [Yaml.Loader] (session : Session) : List Call → List (Session × Except LoadError Loaded)
  | [] => []
  | call :: rest =>
    let step := session.answer call
    step :: run step.1 rest

end Session

end ScenarioCompiler.Settings
