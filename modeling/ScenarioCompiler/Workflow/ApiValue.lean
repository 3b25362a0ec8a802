import ScenarioCompiler.Bindings

namespace ScenarioCompiler

/-- A tree of objects of the cluster's API mixed with plain values; the fields of an object have
their names in documents, and are null where they are not set. `foreign` is anything that has no
place in a document. -/
inductive ApiValue (φ : Type) where
  | null
  | bool (value : Bool)
  | int (value : Int)
  | float (value : Binary64)
  | str (value : String)
  | date (year month day : Nat)
  | moment (year month day hour minute second microsecond : Nat)
  | list (items : List (ApiValue φ))
  | mapping (entries : List (String × ApiValue φ))
  | object (className : String) (fields : List (String × ApiValue φ))
  | foreign (value : φ)

namespace ApiValue

variable {φ : Type}

/-- The last `width` decimal digits of a number. -/
def padded (width n : Nat) : String :=
  let digits := Nat.toDigits 10 n
  String.ofList (List.replicate (width - digits.length) '0' ++ digits)

def dateText (year month day : Nat) : String :=
  padded 4 year ++ "-" ++ padded 2 month ++ "-" ++ padded 2 day

/-- Fractions of a second are written only where there are any. -/
def momentText (year month day hour minute second microsecond : Nat) : String :=
  dateText year month day ++ "T" ++ padded 2 hour ++ ":" ++ padded 2 minute ++ ":" ++
    padded 2 second ++ if microsecond = 0 then "" else "." ++ padded 6 microsecond

mutual

/-- The document of a tree: objects become mappings of the fields that are set. Fails with the
first foreign value on a path of fields that are set. -/
def serialize : ApiValue φ → Except φ Json
  | null => pure .null
  | bool b => pure (.bool b)
  | int n => pure (.int n)
  | float x => pure (.float x)
  | str s => pure (.str s)
  | date y m d => pure (.str (dateText y m d))
  | moment y m d h mi s us => pure (.str (momentText y m d h mi s us))
  | list items => do pure (.arr (← serializeItems items))
  | mapping entries => do pure (.obj (← serializeEntries entries))
  | object _ fields => do pure (.obj (← serializeFields fields))
  | foreign x => throw x

def serializeItems : List (ApiValue φ) → Except φ (List Json)
  | [] => pure []
  | item :: rest => do
    let item ← serialize item
    pure (item :: (← serializeItems rest))

def serializeEntries : List (String × ApiValue φ) → Except φ (List (String × Json))
  | [] => pure []
  | (name, value) :: rest => do
    let value ← serialize value
    pure ((name, value) :: (← serializeEntries rest))

def serializeFields : List (String × ApiValue φ) → Except φ (List (String × Json))
  | [] => pure []
  | (_, .null) :: rest => serializeFields rest
  | (name, value) :: rest => do
    let value ← serialize value
    pure ((name, value) :: (← serializeFields rest))

end

/-- The document of a tree that cannot hold anything foreign. -/
def document (x : ApiValue Empty) : Json :=
  match serialize x with
  | .ok json => json
  | .error e => nomatch e

mutual

def ofJson : Json → ApiValue φ
  | .null => null
  | .bool b => bool b
  | .int n => int n
  | .float x => float x
  | .str s => str s
  | .arr items => list (ofItems items)
  | .obj fields => mapping (ofFields fields)

def ofItems : List Json → List (ApiValue φ)
  | [] => []
  | item :: rest => ofJson item :: ofItems rest

def ofFields : List (String × Json) → List (String × ApiValue φ)
  | [] => []
  | (name, value) :: rest => (name, ofJson value) :: ofFields rest

end

def ofOption {α : Type} (f : α → ApiValue φ) : Option α → ApiValue φ
  | none => null
  | some x => f x

def ofStrings (items : List String) : ApiValue φ := list (items.map str)

def ofBindings (b : Bindings) : ApiValue φ := mapping (b.entries.map fun e => (e.1, str e.2))

end ApiValue

end ScenarioCompiler
