import ScenarioCompiler.Container.Basic
import ScenarioCompiler.Distinct

namespace ScenarioCompiler.Stack

/-- Splits a list into its maximal runs of solution containers and its other containers. -/
def groups : List Container → List (List Container)
  | [] => []
  | c :: rest =>
    match groups rest with
    | (d :: group) :: others =>
      if c.solutionContainer && d.solutionContainer then (c :: d :: group) :: others
      else [c] :: (d :: group) :: others
    | others => [c] :: others

/-- Numbers the runs of solution containers from `count + 1` on; other groups take no number. -/
def numbered (count : Nat) : List (List Container) → List (Nat × List Container)
  | [] => []
  | group :: rest =>
    let count := if group.any (·.solutionContainer) then count + 1 else count
    (count, group) :: numbered count rest

def mergedName (number : Nat) : String := "multipleStepsContainer-" ++ toString number

/-- The modes of a group one after the other. -/
def joinedModes (group : List Container) : String :=
  ",".intercalate (group.map fun c => c.mode.getD "")

/-- One container that runs the steps of a group, otherwise like the first of them. -/
def merged (number : Nat) (first : Container) (group : List Container) : Container :=
  { first with
    name := mergedName number
    envVars := some ((first.envVars.getD .empty).put containerModeVariable (joinedModes group)) }

/-- The container that takes the place of a group. -/
def ofGroup : Nat × List Container → List Container
  | (_, []) => []
  | (_, [c]) => [c]
  | (number, first :: rest) => [merged number first (first :: rest)]

/-- The new names of the members of a group. -/
def renamedMembers : Nat × List Container → Table String
  | (_, []) | (_, [_]) => []
  | (number, group) => group.map fun c => (c.name, mergedName number)

/-- Waits for a merged container in place of its members. -/
def redirect (renamed : Table String) (c : Container) : Container :=
  match c.dependencies with
  | none => c
  | some dependencies =>
    if dependencies.any fun d => (Table.get? renamed d).isSome then
      { c with dependencies := some (distinct (dependencies.map fun d =>
          (Table.get? renamed d).getD d)) }
    else c

/-- Merges each run of two or more solution containers into one container. -/
def stack (containers : List Container) : List Container :=
  let groups := numbered 0 (groups containers)
  let renamed := Table.ofEntries (groups.flatMap renamedMembers)
  (groups.flatMap ofGroup).map (redirect renamed)

end ScenarioCompiler.Stack
