import ScenarioCompiler.Json.Basic
import ScenarioCompiler.Text.Quoted

namespace ScenarioCompiler.Json

/-- A UTF-16 code unit as an escape. -/
def unitEscape (unit : Nat) : List Char := '\\' :: 'u' :: Text.hexDigits 4 unit

/-- One character of a string: ASCII that can be printed stands for itself, and a code point
beyond the basic plane is a pair of escapes. -/
def escapedChar (c : Char) : List Char :=
  if c = '"' then ['\\', '"']
  else if c = '\\' then ['\\', '\\']
  else if c = '\n' then ['\\', 'n']
  else if c = '\r' then ['\\', 'r']
  else if c = '\t' then ['\\', 't']
  else if c = '\x08' then ['\\', 'b']
  else if c = '\x0c' then ['\\', 'f']
  else if 32 ≤ c.toNat && c.toNat < 127 then [c]
  else if c.toNat < 0x10000 then unitEscape c.toNat
  else
    unitEscape (0xD800 + (c.toNat - 0x10000) / 0x400) ++
      unitEscape (0xDC00 + (c.toNat - 0x10000) % 0x400)

def stringChars (s : String) : List Char := '"' :: s.toList.flatMap escapedChar ++ ['"']

def intChars (n : Int) : List Char := (toString n).toList

/-- The names of the numbers that are not finite, as JSON readers that know them spell them. -/
def specialNames : Binary64.SpecialNames := ⟨"NaN", "Infinity"⟩

/-- What stands between the items of a list or an object on the way in, between two items, and on
the way out. With an indentation every item has a line of its own. -/
structure Layout where
  indent : Option Nat
  depth : Nat

namespace Layout

def newline (layout : Layout) (depth : Nat) : List Char :=
  match layout.indent with
  | none => []
  | some width => '\n' :: List.replicate (width * depth) ' '

def deeper (layout : Layout) : Layout := { layout with depth := layout.depth + 1 }

def opening (layout : Layout) : List Char := layout.newline (layout.depth + 1)

def between (layout : Layout) : List Char :=
  match layout.indent with
  | none => [',', ' ']
  | some _ => ',' :: layout.newline (layout.depth + 1)

def closing (layout : Layout) : List Char := layout.newline layout.depth

end Layout

mutual

/-- The text of a document. Empty lists and objects are written without a line break. -/
def render (layout : Layout) : Json → List Char
  | .null => "null".toList
  | .bool true => "true".toList
  | .bool false => "false".toList
  | .int n => intChars n
  | .float x => (x.toText specialNames).toList
  | .str s => stringChars s
  | .arr [] => ['[', ']']
  | .arr (item :: rest) =>
    '[' :: layout.opening ++ render layout.deeper item ++ renderItems layout rest ++
      layout.closing ++ [']']
  | .obj [] => ['\x7b', '\x7d']
  | .obj ((name, value) :: rest) =>
    '\x7b' :: layout.opening ++ stringChars name ++ [':', ' '] ++ render layout.deeper value ++
      renderFields layout rest ++ layout.closing ++ ['\x7d']

def renderItems (layout : Layout) : List Json → List Char
  | [] => []
  | item :: rest => layout.between ++ render layout.deeper item ++ renderItems layout rest

def renderFields (layout : Layout) : List (String × Json) → List Char
  | [] => []
  | (name, value) :: rest =>
    layout.between ++ stringChars name ++ [':', ' '] ++ render layout.deeper value ++
      renderFields layout rest

end

/-- Writes a document on one line, or with one line an item, indented by the given width. -/
def write (indent : Option Nat) (document : Json) : String :=
  String.ofList (render ⟨indent, 0⟩ document)

end ScenarioCompiler.Json
