import ScenarioCompiler.Json.Writer

namespace ScenarioCompiler

/-- A moment on the clock; the offset of its zone from universal time is in minutes. -/
structure Moment where
  year : Nat
  month : Nat
  day : Nat
  hour : Nat
  minute : Nat
  second : Nat
  microsecond : Nat
  offset : Option Int
  deriving DecidableEq, Repr

/-- A value of a document in any format: unlike JSON it knows dates, bytes and sets, and its
mappings may have keys of any kind. A set has its items in the order in which they are visited. A
list or a mapping that contains itself repeats itself; `loop` stands where that is broken off,
deeper than the fields of any record. -/
inductive Datum where
  | null
  | bool (value : Bool)
  | int (value : Int)
  | float (value : Binary64)
  | str (value : String)
  | bytes (value : List UInt8)
  | date (year month day : Nat)
  | moment (value : Moment)
  | seq (items : List Datum)
  | set (items : List Datum)
  | map (entries : List (Datum × Datum))
  | loop (isMapping : Bool)
  deriving Repr, Inhabited

namespace Datum

/-- The number that a value counts as when it is a key: truth values are 0 and 1. -/
def number? : Datum → Option (Int ⊕ Binary64)
  | .bool b => some (.inl (if b then 1 else 0))
  | .int n => some (.inl n)
  | .float x => some (match x.toInt? with
    | some n => .inl n
    | none => .inr x)
  | _ => none

/-- Whether two keys are the same entry of a mapping. -/
def sameKey (a b : Datum) : Bool :=
  match a.number?, b.number? with
  | some (.inl m), some (.inl n) => m == n
  | some (.inr x), some (.inr y) => x.sameValue y
  | none, none =>
    match a, b with
    | .null, .null => true
    | .str s, .str t => s == t
    | .bytes s, .bytes t => s == t
    | .date y m d, .date y' m' d' => y == y' && m == m' && d == d'
    | .moment s, .moment t => s == t
    | _, _ => false
  | _, _ => false

/-- Sets an entry: a known key keeps its place and its spelling. -/
def setEntry (entries : List (Datum × Datum)) (key value : Datum) : List (Datum × Datum) :=
  match entries with
  | [] => [(key, value)]
  | entry :: rest =>
    if entry.1.sameKey key then (entry.1, value) :: rest else entry :: setEntry rest key value

def entry? (entries : List (Datum × Datum)) (name : String) : Option Datum :=
  match entries with
  | [] => none
  | (.str key, value) :: rest => if key = name then some value else entry? rest name
  | _ :: rest => entry? rest name

/-- Whether a value counts as absent: nothing, zero, or empty. -/
def isVoid : Datum → Bool
  | .null => true
  | .bool b => !b
  | .int n => n == 0
  | .float x => x.toInt? == some 0
  | .str s => s.isEmpty
  | .bytes b => b.isEmpty
  | .seq items => items.isEmpty
  | .set items => items.isEmpty
  | .map entries => entries.isEmpty
  | .date .. | .moment _ | .loop _ => false

mutual

def ofJson : Json → Datum
  | .null => .null
  | .bool b => .bool b
  | .int n => .int n
  | .float x => .float x
  | .str s => .str s
  | .arr items => .seq (ofItems items)
  | .obj fields => .map (ofFields fields)

def ofItems : List Json → List Datum
  | [] => []
  | item :: rest => ofJson item :: ofItems rest

def ofFields : List (String × Json) → List (Datum × Datum)
  | [] => []
  | (name, value) :: rest => (.str name, ofJson value) :: ofFields rest

end

/-- Why a value cannot be written as JSON. -/
inductive JsonFault where
  | unsupported
  | circular
  | tooManyDigits
  deriving DecidableEq, Repr

/-- Integers of more digits have no decimal text. -/
def hasText (n : Int) : Bool := n.natAbs < powerOfTen 4300

/-- The name that a key gets in a JSON object. -/
def keyText : Datum → Except JsonFault String
  | .str s => pure s
  | .null => pure "null"
  | .bool b => pure (if b then "true" else "false")
  | .int n => if hasText n then pure (toString n) else throw .tooManyDigits
  | .float x => pure (x.toText Json.specialNames)
  | _ => throw .unsupported

mutual

/-- The value as it is after being written as JSON and read again: all keys are texts, and the
last of two entries with one name wins. -/
def toJson : Datum → Except JsonFault Json
  | .null => pure .null
  | .bool b => pure (.bool b)
  | .int n => if hasText n then pure (.int n) else throw .tooManyDigits
  | .float x => pure (.float x)
  | .str s => pure (.str s)
  | .seq items => do pure (.arr (← toItems items))
  | .map entries => do pure (.obj (← toFields entries []))
  | .loop _ => throw .circular
  | .bytes _ | .date .. | .moment _ | .set _ => throw .unsupported

def toItems : List Datum → Except JsonFault (List Json)
  | [] => pure []
  | item :: rest => do
    let item ← toJson item
    pure (item :: (← toItems rest))

def toFields : List (Datum × Datum) → List (String × Json) →
    Except JsonFault (List (String × Json))
  | [], fields => pure fields
  | (key, value) :: rest, fields => do
    let name ← keyText key
    let value ← toJson value
    toFields rest (Table.put fields name value)

end

end Datum

end ScenarioCompiler
