import ScenarioCompiler.Schema.Decoder
import ScenarioCompiler.Text.LowerCase
import ScenarioCompiler.Text.Search

namespace ScenarioCompiler

/-- What environment variables say about settings: one sets a value, or several set fields of a
record. The owner of a record is the first variable that named it. -/
inductive Override where
  | value (source raw : String)
  | nested (owner : String) (entries : List (String × Override))
  deriving Repr

namespace Override

/-- Two variables of which one sets a field that contains the field of the other. -/
structure Conflict where
  first : String
  second : String
  deriving DecidableEq, Repr

namespace Conflict

def message (c : Conflict) : String :=
  "The environment variables " ++ c.first ++ " and " ++ c.second ++
    " override the same platform setting, one of them sets a field which contains the field " ++
    "that the other one sets"

def cause (c : Conflict) : String :=
  "Conflicting environment variables " ++ c.first ++ " and " ++ c.second

end Conflict

/-- The field of a record whose name is `segment` in lower case. -/
def field? (shape : Schema.Shape) (segment : String) : Option (String × Schema.Shape) :=
  match shape with
  | .value => none
  | .record fields => fields.find? fun f => Text.lowerCase f.1 == segment

/-- The parts of the name of a variable behind the prefix. -/
def segments (name : List Char) : List String :=
  (Text.splitAll ['_', '_'] (Text.lowerChars name)).map String.ofList

/-- Adds a variable to the overrides of the fields of a record; from the first part on that is no
field it is ignored. -/
def insert (source raw : String) (shape : Schema.Shape) (entries : List (String × Override)) :
    List String → Except Conflict (List (String × Override))
  | [] => .ok entries
  | [segment] =>
    match field? shape segment with
    | none => .ok entries
    | some (name, _) =>
      match Table.get? entries name with
      | some (.nested owner _) => .error ⟨owner, source⟩
      | _ => .ok (Table.put entries name (.value source raw))
  | segment :: rest =>
    match field? shape segment with
    | none => .ok entries
    | some (name, fieldShape) =>
      match Table.get? entries name with
      | some (.value first _) => .error ⟨first, source⟩
      | some (.nested owner inner) => do
        let inner ← insert source raw fieldShape inner rest
        pure (Table.put entries name (.nested owner inner))
      | none => do
        let inner ← insert source raw fieldShape [] rest
        pure (Table.put entries name (.nested source inner))

/-- The part of a name behind a prefix. -/
def dropPrefix? (start name : String) : Option (List Char) :=
  if start.toList.isPrefixOf name.toList then some (name.toList.drop start.length) else none

/-- Adds the variables of a list whose names have the prefix. -/
def insertAll (shape : Schema.Shape) (start : String) (entries : List (String × Override)) :
    List (String × String) → Except Conflict (List (String × Override))
  | [] => .ok entries
  | (name, raw) :: rest =>
    match dropPrefix? start name with
    | none => insertAll shape start entries rest
    | some path => do
      let entries ← insert name raw shape entries (segments path)
      insertAll shape start entries rest

/-- The overrides of an environment, whose variables are taken in the order of their names. -/
def ofEnvironment (shape : Schema.Shape) (start : String) (environment : Bindings) :
    Except Conflict (List (String × Override)) :=
  insertAll shape start [] (environment.entries.mergeSort fun a b => a.1 ≤ b.1)

mutual

/-- The override as a document: a value becomes the pair of its variable and its text. -/
def toJson : Override → Json
  | value source raw => .arr [.str source, .str raw]
  | nested _ entries => .obj (toFields entries)

def toFields : List (String × Override) → List (String × Json)
  | [] => []
  | (name, x) :: rest => (name, toJson x) :: toFields rest

end

end Override

end ScenarioCompiler
