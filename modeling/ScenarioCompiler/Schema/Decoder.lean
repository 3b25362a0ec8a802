import ScenarioCompiler.Schema.Problem

namespace ScenarioCompiler.Schema

/-- A value, or all the problems of the document that it was read from. -/
abbrev Checked (α : Type) := Except (List Problem) α

namespace Checked

variable {α β : Type}

/-- Applies a function, and collects the problems of both sides. -/
def seq (f : Checked (α → β)) (x : Checked α) : Checked β :=
  match f, x with
  | .ok f, .ok x => .ok (f x)
  | .error p, .ok _ => .error p
  | .ok _, .error q => .error q
  | .error p, .error q => .error (p ++ q)

def problems : Checked α → List Problem
  | .ok _ => []
  | .error p => p

/-- The result as seen from the value one level up. -/
def under (item : PathItem) (x : Checked α) : Checked α :=
  x.mapError fun problems => problems.map (Problem.under item)

def fail (cause : Cause) : Checked α := .error [⟨[], cause⟩]

end Checked

/-- How values are read as integers, which is not part of the compiler: the library that validates
documents decides which texts and floats count as integers. -/
class IntegerReader where
  read : Datum → Checked Int

/-- The names below a value that can be reached through records. -/
inductive Shape where
  | value
  | record (fields : List (String × Shape))
  deriving Repr, Inhabited

/-- A way to read a value of a document. -/
structure Decoder (α : Type) where
  shape : Shape
  read : Datum → Checked α

/-- A way to read some of the entries of a mapping. -/
structure Fields (α : Type) where
  shapes : Table Shape
  read : List (Datum × Datum) → Checked α

namespace Fields

variable {α β : Type}

instance : Functor Fields where
  map f x := ⟨x.shapes, fun entries => (x.read entries).map f⟩

instance : Seq Fields where
  seq f x := ⟨f.shapes ++ (x ()).shapes, fun entries =>
    Checked.seq (f.read entries) ((x ()).read entries)⟩

/-- A field that has to be there. -/
def required (name : String) (d : Decoder α) : Fields α :=
  ⟨[(name, d.shape)], fun entries =>
    Checked.under (.name name) (match Datum.entry? entries name with
      | none => Checked.fail .missing
      | some value => d.read value)⟩

/-- A field with a value for the case that it is absent. -/
def withDefault (name : String) (d : Decoder α) (default : α) : Fields α :=
  ⟨[(name, d.shape)], fun entries =>
    match Datum.entry? entries name with
    | none => .ok default
    | some value => Checked.under (.name name) (d.read value)⟩

/-- A field that may be absent or null. -/
def optional (name : String) (d : Decoder α) : Fields (Option α) :=
  ⟨[(name, d.shape)], fun entries =>
    match Datum.entry? entries name with
    | none | some .null => .ok none
    | some value => Checked.under (.name name) ((d.read value).map some)⟩

def names (fields : Fields α) : List String := Table.names fields.shapes

end Fields

/-- What becomes of the entries of a mapping that are not fields of the record. -/
inductive Extras where
  | ignored
  | forbidden
  deriving DecidableEq, Repr

/-- The problems of the entries that are not fields, in the order of the document. -/
def extraProblems (names : List String) : List (Datum × Datum) → List Problem
  | [] => []
  | (.str key, _) :: rest =>
    if names.contains key then extraProblems names rest
    else ⟨[.name key], .extra⟩ :: extraProblems names rest
  | (key, _) :: rest => ⟨[.ofKey key], .keyNotText⟩ :: extraProblems names rest

namespace Decoder

variable {α : Type}

/-- A mapping with named fields. -/
def record (name : String) (extras : Extras) (fields : Fields α) : Decoder α :=
  let readEntries (entries : List (Datum × Datum)) : Checked α :=
    let value := fields.read entries
    match extras with
    | .ignored => value
    | .forbidden =>
      match value.problems ++ extraProblems fields.names entries with
      | [] => value
      | problems => .error problems
  { shape := .record fields.shapes
    read := fun
      | .map entries => readEntries entries
      | _ => Checked.fail (.notRecord name) }

def readText : Datum → Checked String
  | .str s => .ok s
  | .bytes b =>
    match String.fromUTF8? ⟨b.toArray⟩ with
    | some s => .ok s
    | none => Checked.fail .textEncoding
  | _ => Checked.fail .notText

def text : Decoder String := ⟨.value, readText⟩

def boolWords : List (String × Bool) := [
  ("0", false), ("off", false), ("f", false), ("false", false), ("n", false), ("no", false),
  ("1", true), ("on", true), ("t", true), ("true", true), ("y", true), ("yes", true)]

/-- The truth value that a word spells, in any case of its ASCII letters. -/
def boolOfWord (word : String) : Checked Bool :=
  match Table.get? boolWords (word.map Char.toLower) with
  | some b => .ok b
  | none => Checked.fail .boolSpelling

/-- The truth value that an integer stands for. -/
def boolOfInt (n : Int) : Checked Bool :=
  if n = 0 then .ok false else if n = 1 then .ok true else Checked.fail .boolSpelling

/-- Floats that are integers count as such below 64 bits. -/
def fitsWord (n : Int) : Bool := n.natAbs < powerOfTwo 63

def readBool : Datum → Checked Bool
  | .bool b => .ok b
  | .int n => if isInt64 n then boolOfInt n else Checked.fail .notBool
  | .float x =>
    match x.toInt? with
    | some n => if fitsWord n then boolOfInt n else Checked.fail .notBool
    | none => Checked.fail .notBool
  | .str s => boolOfWord s
  | .bytes b =>
    match String.fromUTF8? ⟨b.toArray⟩ with
    | some s => boolOfWord s
    | none => Checked.fail .boolSpelling
  | _ => Checked.fail .notBool

def bool : Decoder Bool := ⟨.value, readBool⟩

/-- Digits with single underscores between them. -/
def digitsOf? : List Char → Option (List Char)
  | [] => none
  | [c] => if c.isDigit then some [c] else none
  | c :: '_' :: rest => if c.isDigit then (digitsOf? rest).map (c :: ·) else none
  | c :: rest => if c.isDigit then (digitsOf? rest).map (c :: ·) else none

/-- The rest of a number behind its leading zeros, and behind any underscores between these and the
rest. A zero stays if no digit follows. -/
def dropZeros (cs : List Char) : List Char :=
  if cs.head? = some '0' then
    match cs.dropWhile fun c => c = '0' || c = '_' with
    | [] => cs.drop (cs.length - 1)
    | '.' :: fraction =>
      let last := (cs.takeWhile fun c => c = '0' || c = '_').getLast?
      last.toList ++ '.' :: fraction
    | rest => rest
  else cs

/-- The digits before a fraction of zeros. -/
def dropZeroFraction (cs : List Char) : List Char :=
  match cs.span (· != '.') with
  | (whole, '.' :: fraction) =>
    if !fraction.isEmpty && fraction.all (· == '0') then whole else cs
  | _ => cs

/-- The integer that a text spells. -/
def integerOfText (s : String) : Checked Int :=
  let cs := Text.trimBoth Text.isUnicodeSpace s.toList
  let (negative, cs) := match cs with
    | '-' :: rest => (true, rest)
    | '+' :: rest => (false, rest)
    | cs => (false, cs)
  match digitsOf? (dropZeroFraction (dropZeros cs)) with
  | none => Checked.fail .integerSpelling
  | some digits =>
    if Json.digitLimit < digits.length then Checked.fail .integerLength
    else
      let n : Int := Json.digitsValue digits
      .ok (if negative then -n else n)

def readInteger : Datum → Checked Int
  | .int n => .ok n
  | .bool b => .ok (if b then 1 else 0)
  | .float x =>
    match x with
    | .nan | .infinite _ => Checked.fail .notFinite
    | .finite .. =>
      match x.toInt? with
      | some n => if fitsWord n then .ok n else Checked.fail .integerLength
      | none => Checked.fail .fractional
  | .str s => integerOfText s
  | .bytes b =>
    match String.fromUTF8? ⟨b.toArray⟩ with
    | some s => integerOfText s
    | none => Checked.fail .integerSpelling
  | _ => Checked.fail .notInteger

/-- The reader that the compiler runs with. -/
instance laxReader : IntegerReader := ⟨readInteger⟩

def integer [IntegerReader] : Decoder Int := ⟨.value, IntegerReader.read⟩

/-- A text, or an integer that stands for its decimal text, where it has one. -/
def textOrInteger : Decoder String where
  shape := .value
  read
    | .int n => if Datum.hasText n then .ok (toString n) else Checked.fail .integerText
    | .bool b => .ok (if b then "True" else "False")
    | value => readText value

/-- One of a few words. -/
def member (first : String × α) (others : List (String × α)) : Decoder α :=
  let refuse : Checked α := Checked.fail (.notMember first.1 (Table.names others))
  { shape := .value
    read := fun value =>
      match readText value with
      | .error _ => refuse
      | .ok word =>
        match Table.get? (first :: others) word with
        | some x => .ok x
        | none => refuse }

/-- The items of a list from the one at `index` on, with the problems of all of them. -/
def readItems (d : Decoder α) (index : Nat) : List Datum → Checked (List α)
  | [] => .ok []
  | item :: rest =>
    let first := Checked.under (.number index) (d.read item)
    Checked.seq (first.map List.cons) (readItems d (index + 1) rest)

def list (d : Decoder α) : Decoder (List α) where
  shape := .value
  read
    | .seq items | .set items => readItems d 0 items
    | _ => Checked.fail .notList

/-- The entries of a mapping of texts to texts; a faulty key stands before its value. -/
def readBindings : List (Datum × Datum) → Checked (Table String)
  | [] => .ok []
  | (key, value) :: rest =>
    let name := Checked.under (.ofKey key) (Checked.under (.name "[key]") (readText key))
    let value := Checked.under (.ofKey key) (readText value)
    Checked.seq ((Checked.seq (name.map Prod.mk) value).map List.cons) (readBindings rest)

/-- A mapping of texts to texts. -/
def bindings : Decoder Bindings where
  shape := .value
  read
    | .map entries => (readBindings entries).map Bindings.ofEntries
    | _ => Checked.fail .notMapping

end Decoder

end ScenarioCompiler.Schema
