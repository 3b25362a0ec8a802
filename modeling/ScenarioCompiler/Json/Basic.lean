import ScenarioCompiler.Number.Binary64
import ScenarioCompiler.Table

namespace ScenarioCompiler

/-- A JSON document; the fields of an object keep their order. -/
inductive Json where
  | null
  | bool (value : Bool)
  | int (value : Int)
  | float (value : Binary64)
  | str (value : String)
  | arr (items : List Json)
  | obj (fields : List (String × Json))
  deriving Repr, Inhabited

namespace Json

def ofOption {α : Type} (f : α → Json) : Option α → Json
  | none => .null
  | some x => f x

def ofStrings (items : List String) : Json := .arr (items.map .str)

/-- An object whose values are texts. -/
def ofBindings (bindings : List (String × String)) : Json :=
  .obj (bindings.map fun b => (b.1, .str b.2))

mutual

/-- The document without the fields of its objects that are null. -/
def dropNulls : Json → Json
  | .arr items => .arr (dropNullItems items)
  | .obj fields => .obj (dropNullFields fields)
  | other => other

def dropNullItems : List Json → List Json
  | [] => []
  | item :: rest => dropNulls item :: dropNullItems rest

def dropNullFields : List (String × Json) → List (String × Json)
  | [] => []
  | (_, .null) :: rest => dropNullFields rest
  | (name, value) :: rest => (name, dropNulls value) :: dropNullFields rest

end

end Json

end ScenarioCompiler
