import ScenarioCompiler.Json.Basic
import ScenarioCompiler.Text.Blank
import ScenarioCompiler.Text.Quoted

namespace ScenarioCompiler.Json

mutual

/-- The document with the fields of all objects in the order of their names. -/
def sortFields : Json → Json
  | .arr items => .arr (sortFieldsInItems items)
  | .obj fields => .obj ((sortFieldsInFields fields).mergeSort fun a b => a.1 ≤ b.1)
  | other => other

def sortFieldsInItems : List Json → List Json
  | [] => []
  | item :: rest => sortFields item :: sortFieldsInItems rest

def sortFieldsInFields : List (String × Json) → List (String × Json)
  | [] => []
  | (name, value) :: rest => (name, sortFields value) :: sortFieldsInFields rest

end

namespace Pretty

def specialNames : Binary64.SpecialNames := ⟨"nan", "inf"⟩

mutual

/-- The document on one line, with texts in quotes as in messages. -/
def oneLine : Json → String
  | .null => "None"
  | .bool b => if b then "True" else "False"
  | .int n => toString n
  | .float x => x.toText specialNames
  | .str s => Text.quoted s
  | .arr items => "[" ++ oneLineItems items ++ "]"
  | .obj fields => "\x7b" ++ oneLineFields fields ++ "\x7d"

def oneLineItems : List Json → String
  | [] => ""
  | [item] => oneLine item
  | item :: rest => oneLine item ++ ", " ++ oneLineItems rest

def oneLineFields : List (String × Json) → String
  | [] => ""
  | [(name, value)] => Text.quoted name ++ ": " ++ oneLine value
  | (name, value) :: rest =>
    Text.quoted name ++ ": " ++ oneLine value ++ ", " ++ oneLineFields rest

end

def width : Int := 80

def isLineEnd (c : Char) : Bool :=
  let n := c.toNat
  (10 ≤ n && n ≤ 13) || (28 ≤ n && n ≤ 30) || n = 0x85 || n = 0x2028 || n = 0x2029

/-- The lines of a text with their ends; `current` is the reversed beginning of the first one. -/
def linesFrom (current : List Char) : List Char → List (List Char)
  | [] => if current.isEmpty then [] else [current.reverse]
  | '\r' :: '\n' :: rest => ('\n' :: '\r' :: current).reverse :: linesFrom [] rest
  | c :: rest =>
    if isLineEnd c then (c :: current).reverse :: linesFrom [] rest
    else linesFrom (c :: current) rest

/-- The words of a line, each with the blanks that follow it; `current` is the reversed beginning
of the first one, and `inBlanks` tells whether it has reached its blanks. -/
def wordsFrom (current : List Char) (inBlanks : Bool) : List Char → List (List Char)
  | [] => if current.isEmpty then [] else [current.reverse]
  | c :: rest =>
    if Text.isBlank c then wordsFrom (c :: current) true rest
    else if inBlanks then current.reverse :: wordsFrom [c] false rest
    else wordsFrom (c :: current) false rest

def quotedChars (cs : List Char) : String := Text.quoted (String.ofList cs)

/-- Fills pieces of at most `room` characters with words; `lastRoom` is the room for what ends the
text. -/
def fill (room lastRoom : Int) (current : List Char) : List (List Char) → List String
  | [] => if current.isEmpty then [] else [quotedChars current]
  | word :: rest =>
    let candidate := current ++ word
    if (if rest.isEmpty then lastRoom else room) < (quotedChars candidate).length then
      (if current.isEmpty then [] else [quotedChars current]) ++ fill room lastRoom word rest
    else fill room lastRoom candidate rest

/-- The quoted pieces of the lines of a text. -/
def pieces (room : Int) (allowance : Nat) : List (List Char) → List String
  | [] => []
  | line :: rest =>
    let lineRoom := if rest.isEmpty then room - allowance else room
    (if (quotedChars line).length ≤ lineRoom then [quotedChars line]
      else fill room lineRoom [] (wordsFrom [] false line)) ++ pieces room allowance rest

/-- A long text in several quoted pieces below each other. -/
def longText (indent allowance : Nat) (s : String) : String :=
  ("\n" ++ String.ofList (List.replicate indent ' ')).intercalate
    (pieces (width - indent) allowance (linesFrom [] s.toList))

def nextLine (indent : Nat) : String := ",\n" ++ String.ofList (List.replicate indent ' ')

mutual

/-- The document from column `indent` on with `allowance` characters to follow on its last line: on
one line if it fits. -/
def layout (indent allowance : Nat) (x : Json) : String :=
  if (oneLine x).length ≤ width - indent - allowance then oneLine x
  else match x with
    | .arr items => "[" ++ layoutItems (indent + 1) (allowance + 1) items ++ "]"
    | .obj fields => "\x7b" ++ layoutFields (indent + 1) (allowance + 1) fields ++ "\x7d"
    | .str s => if s.isEmpty then oneLine x else longText indent allowance s
    | _ => oneLine x

def layoutItems (indent allowance : Nat) : List Json → String
  | [] => ""
  | [item] => layout indent allowance item
  | item :: rest => layout indent 1 item ++ nextLine indent ++ layoutItems indent allowance rest

def layoutFields (indent allowance : Nat) : List (String × Json) → String
  | [] => ""
  | [(name, value)] =>
    let key := Text.quoted name ++ ": "
    key ++ layout (indent + key.length) allowance value
  | (name, value) :: rest =>
    let key := Text.quoted name ++ ": "
    key ++ layout (indent + key.length) 1 value ++ nextLine indent ++
      layoutFields indent allowance rest

end

end Pretty

/-- The text of a document for people: the fields sorted by name and broken into lines of at most
80 characters where that is possible. -/
def pretty (x : Json) : String := Pretty.layout 0 0 x.sortFields

mutual

/-- Equality of documents: the order of fields does not matter, and truth values equal 0 and 1. -/
def sameDocument : Json → Json → Bool
  | .null, .null => true
  | .str s, .str t => s == t
  | .arr xs, .arr ys => sameItems xs ys
  | .obj xs, .obj ys => xs.length == ys.length && sameFields xs ys
  | x, y =>
    match number? x, number? y with
    | some (.inl m), some (.inl n) => m == n
    | some (.inr x), some (.inr y) => x.sameValue y
    | _, _ => false
where
  /-- The number that a scalar counts as. -/
  number? : Json → Option (Int ⊕ Binary64)
    | .bool b => some (.inl (if b then 1 else 0))
    | .int n => some (.inl n)
    | .float x => some (match x.toInt? with
      | some n => .inl n
      | none => .inr x)
    | _ => none

def sameItems : List Json → List Json → Bool
  | [], [] => true
  | x :: xs, y :: ys => sameDocument x y && sameItems xs ys
  | _, _ => false

/-- Whether every field has an equal one among the others. -/
def sameFields : List (String × Json) → List (String × Json) → Bool
  | [], _ => true
  | (name, x) :: xs, ys =>
    (match Table.get? ys name with
      | some y => sameDocument x y
      | none => false) && sameFields xs ys

end

end ScenarioCompiler.Json
