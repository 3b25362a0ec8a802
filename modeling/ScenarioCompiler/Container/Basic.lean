import ScenarioCompiler.Request.Basic

namespace ScenarioCompiler

/-- The dependency of a container that waits for nothing. -/
def rootDependency : String := "DAG_ROOT"

/-- The variable that tells a solution container which steps it runs. -/
def containerModeVariable : String := "CSM_CONTAINER_MODE"

/-- One step of a compiled scenario run. Without an entrypoint the one of the image is run. -/
structure Container where
  name : String
  image : String
  entrypoint : Option String := none
  runArgs : Option (List String) := none
  envVars : Option Bindings := none
  labels : Option Bindings := none
  dependencies : Option (List String) := none
  solutionContainer : Bool := false
  runSizing : Option ResourceSizing := none
  deriving DecidableEq, Repr

namespace Container

def mode (c : Container) : Option String := c.envVars.bind (·.get? containerModeVariable)

/-- The names that the container waits for. -/
def waitsFor (c : Container) : List String :=
  (c.dependencies.getD []).filter (· ≠ rootDependency)

end Container

/-- A compiled scenario run. -/
structure RunStart where
  containers : List Container
  nodeLabel : Option String
  generateName : Option String
  csmSimulationId : String
  labels : Option Bindings
  deriving DecidableEq, Repr

namespace RunStart

def names (s : RunStart) : List String := s.containers.map (·.name)

/-- The first container of a name. -/
def get? (s : RunStart) (name : String) : Option Container :=
  s.containers.find? (·.name == name)

end RunStart

end ScenarioCompiler
