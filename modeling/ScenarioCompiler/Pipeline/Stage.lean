import ScenarioCompiler.Container.Basic

namespace ScenarioCompiler

/-- The parts of a run in the order in which they are executed. -/
inductive StageKind where
  | datasetFetch
  | scenarioParameterFetch
  | datasetParameterFetch
  | applyParameters
  | validate
  | sendToWarehouse
  | preRun
  | run
  | postRun
  deriving DecidableEq, Repr

/-- A part of a run that builds containers from the names they have to wait for. A stage that does
not advance the frontier is a side branch: the stages after it wait for what is before it. -/
structure Stage (m : Type → Type) where
  kind : StageKind
  enabled : Bool
  build : Option (List String) → m (List Container)
  advancesFrontier : Bool := true
  rootWhenFirst : Bool := false

/-- A step that is not switched on or off is enabled. -/
def isStepEnabled (switch : Option Bool) : Bool := switch.getD true

namespace Stage

variable {m : Type → Type}

/-- What the containers of a stage wait for when `frontier` names the containers before it. -/
def dependencies (stage : Stage m) (frontier : List String) : Option (List String) :=
  if !frontier.isEmpty then some frontier
  else if stage.rootWhenFirst then some [rootDependency]
  else none

/-- The frontier after a stage: its containers, or the same as before when the stage is a side
branch or built nothing. -/
def frontierAfter (stage : Stage m) (frontier : List String) (built : List Container) :
    List String :=
  if stage.advancesFrontier && !built.isEmpty then built.map (·.name) else frontier

/-- Builds the enabled stages one after the other, each one waiting for the frontier. -/
def link [Monad m] : (frontier : List String) → List (Stage m) → m (List Container)
  | _, [] => pure []
  | frontier, stage :: rest =>
    if stage.enabled then do
      let built ← stage.build (stage.dependencies frontier)
      let later ← link (stage.frontierAfter frontier built) rest
      pure (built ++ later)
    else link frontier rest

/-- Builds all enabled stages. -/
def linkAll [Monad m] (stages : List (Stage m)) : m (List Container) := link [] stages

end Stage

end ScenarioCompiler
