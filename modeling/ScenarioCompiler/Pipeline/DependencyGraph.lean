import ScenarioCompiler.Container.Basic
import ScenarioCompiler.Failure

namespace ScenarioCompiler

/-- Containers by name, with an edge from each container to those that wait for it. -/
structure DependencyGraph where
  nodes : List String
  edges : List (String × String)
  deriving DecidableEq, Repr

namespace DependencyGraph

/-- Fails at the first container whose name is taken, or which waits for one that is not before
it; `seen` holds the names before the list. -/
def check (seen : List String) : List Container → Except Failure Unit
  | [] => .ok ()
  | c :: rest =>
    let dependencies := c.dependencies.getD []
    if seen.contains c.name then
      .error (.invalidDependency c.name dependencies "the name is not unique")
    else
      match c.waitsFor.find? fun d => !seen.contains d with
      | some d => .error (.invalidDependency c.name dependencies (d ++ " does not precede it"))
      | none => check (seen ++ [c.name]) rest

/-- The containers that wait for a name. -/
def successors (containers : List Container) (name : String) : List String :=
  (containers.filter fun c => c.waitsFor.contains name).map (·.name)

/-- The graph of a list in which every container comes after those it waits for. -/
def of (containers : List Container) : Except Failure DependencyGraph := do
  check [] containers
  let nodes := containers.map (·.name)
  pure { nodes, edges := nodes.flatMap fun n => (successors containers n).map fun s => (n, s) }

end DependencyGraph

end ScenarioCompiler
