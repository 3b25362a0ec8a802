import ScenarioCompiler.Json.Writer
import ScenarioCompiler.Yaml.Tag

namespace ScenarioCompiler.Yaml.Writer

/-- Lines are folded at the first space behind this column. -/
def width : Nat := 80

/-- How a scalar is written. -/
inductive Style where
  | plain
  | single
  | double
  deriving DecidableEq, Repr

/-- Printable ASCII and the line feed; other characters need an escape. -/
def isOrdinary (c : Char) : Bool := c = '\n' || (32 ≤ c.toNat && c.toNat ≤ 126)

/-- Whether a plain scalar may begin with the text. -/
def beginsPlain : List Char → Bool
  | [] => false
  | c :: rest =>
    !"#,[]\x7b\x7d&*!|>'\"%@` \n".toList.contains c &&
      !((c = '-' || c = '?' || c = ':') && isBlankOrEnd rest.head?) &&
      !"---".toList.isPrefixOf (c :: rest) && !"...".toList.isPrefixOf (c :: rest)

/-- Whether a plain scalar may go on with the text; `afterBlank` tells whether it follows a space.
A colon in front of a space would end a key, and a number sign behind one would start a comment. -/
def continuesPlain : (afterBlank : Bool) → List Char → Bool
  | afterBlank, [] => !afterBlank
  | afterBlank, c :: rest =>
    c != '\n' && !(c = ':' && isBlankOrEnd rest.head?) && !(c = '#' && afterBlank) &&
      continuesPlain (c = ' ') rest

/-- Whether a space stands next to a line feed. -/
def hasSpaceAtBreak : List Char → Bool
  | a :: b :: rest =>
    (a = ' ' && b = '\n') || (a = '\n' && b = ' ') || hasSpaceAtBreak (b :: rest)
  | _ => false

def allowsPlain (cs : List Char) : Bool :=
  cs.all isOrdinary && beginsPlain cs && continuesPlain false cs

def allowsSingle (cs : List Char) : Bool := cs.all isOrdinary && !hasSpaceAtBreak cs

/-- A text is plain if it reads back as a text, else in apostrophes, and in quotation marks if it
needs escapes. A key that shares its line with the value has no line feed. -/
def styleOf (isKey : Bool) (text : String) : Style :=
  let cs := text.toList
  if Tag.ofPlain text = .str && allowsPlain cs then .plain
  else if allowsSingle cs && !(isKey && cs.contains '\n') then .single
  else .double

def newLine (indent : Nat) : List Char := '\n' :: List.replicate indent ' '

/-- Where a scalar is written: the indentation of its further lines, and whether it may have any. -/
structure Place where
  indent : Nat
  split : Bool

/-- Plain text, folded at single spaces. -/
def plainChars (p : Place) : (column : Nat) → (afterSpace : Bool) → List Char → List Char
  | _, _, [] => []
  | column, afterSpace, c :: rest =>
    if c = ' ' && !afterSpace && rest.head? != some ' ' && width < column && p.split then
      newLine p.indent ++ plainChars p p.indent true rest
    else c :: plainChars p (column + 1) (c = ' ') rest

/-- Text between apostrophes: an apostrophe is doubled, a run of line feeds gets one more, and
single spaces that are not at an end may be folded. -/
def singleChars (p : Place) : (column : Nat) → (before : Option Char) → List Char → List Char
  | _, _, [] => []
  | column, before, c :: rest =>
    if c = '\'' then '\'' :: '\'' :: singleChars p (column + 2) (some c) rest
    else if c = '\n' then
      (if before = some '\n' then ['\n'] else ['\n', '\n']) ++
        (if rest.head? = some '\n' then [] else List.replicate p.indent ' ') ++
        singleChars p p.indent (some c) rest
    else if c = ' ' && before.isSome && before != some ' ' && !rest.isEmpty &&
        rest.head? != some ' ' && width < column && p.split then
      newLine p.indent ++ singleChars p p.indent (some c) rest
    else c :: singleChars p (column + 1) (some c) rest

/-- The characters with an escape of one letter. -/
def letterEscapes : List (Char × Char) := [
  ('\x00', '0'), ('\x07', 'a'), ('\x08', 'b'), ('\t', 't'), ('\n', 'n'), ('\x0b', 'v'),
  ('\x0c', 'f'), ('\r', 'r'), ('\x1b', 'e'), ('"', '"'), ('\\', '\\'), ('\x85', 'N'),
  ('\xa0', '_'), ('\u2028', 'L'), ('\u2029', 'P')]

def upperHex (width n : Nat) : List Char := (Text.hexDigits width n).map Char.toUpper

/-- The escape of a character. -/
def escape (c : Char) : List Char :=
  match letterEscapes.lookup c with
  | some letter => ['\\', letter]
  | none =>
    if c.toNat ≤ 0xFF then '\\' :: 'x' :: upperHex 2 c.toNat
    else if c.toNat ≤ 0xFFFF then '\\' :: 'u' :: upperHex 4 c.toNat
    else '\\' :: 'U' :: upperHex 8 c.toNat

def needsEscape (c : Char) : Bool :=
  c = '"' || c = '\\' || !(32 ≤ c.toNat && c.toNat ≤ 126)

/-- A line break that is not part of the text; a space behind it needs a backslash. -/
def softBreak (p : Place) (next : Option Char) : List Char :=
  '\\' :: newLine p.indent ++ (if next = some ' ' then ['\\'] else [])

def columnAfterBreak (p : Place) (next : Option Char) : Nat :=
  p.indent + (if next = some ' ' then 1 else 0)

/-- Text between quotation marks. A line may end in front of a space and on both sides of an
escape, but not next to a quotation mark. -/
def doubleChars (p : Place) :
    (column : Nat) → (afterEscape isFirst : Bool) → List Char → List Char
  | _, _, _, [] => []
  | column, afterEscape, isFirst, c :: rest =>
    let inside := !isFirst && !rest.isEmpty && p.split
    if needsEscape c then
      let column := column + (escape c).length
      if inside && width < column - 1 then
        escape c ++ softBreak p rest.head? ++
          doubleChars p (columnAfterBreak p rest.head?) true false rest
      else escape c ++ doubleChars p column true false rest
    else if inside && (c = ' ' || afterEscape) && width < column then
      softBreak p (some c) ++ c :: doubleChars p (columnAfterBreak p (some c) + 1) false false rest
    else c :: doubleChars p (column + 1) false false rest

/-- A text in a given style; `column` is the place of its first character. -/
def textChars (style : Style) (p : Place) (column : Nat) (cs : List Char) : List Char :=
  match style with
  | .plain => plainChars p column false cs
  | .single => '\'' :: singleChars p (column + 1) none cs ++ ['\'']
  | .double => '"' :: doubleChars p (column + 1) false true cs ++ ['"']

/-- The names of the numbers that are not finite. -/
def specialNames : Binary64.SpecialNames := ⟨".nan", ".inf"⟩

/-- A number with a fraction in any case, since without one it would read back as a text. -/
def floatChars (x : Binary64) : List Char :=
  let cs := (x.toText specialNames).toList
  if cs.contains '.' then cs
  else match cs.span (· != 'e') with
    | (digits, []) => digits
    | (digits, exponent) => digits ++ '.' :: '0' :: exponent

/-- A value that is neither a list nor a mapping. -/
def scalarChars (indent column : Nat) : Json → List Char
  | .null => "null".toList
  | .bool b => (if b then "true" else "false").toList
  | .int n => Json.intChars n
  | .float x => floatChars x
  | .str text => textChars (styleOf false text) ⟨indent, true⟩ column text.toList
  | .arr _ => []
  | .obj _ => []

/-- The length of the tag that a key counts with, although it is not written. -/
def tagLength : Nat := 5

/-- Whether a key stands in front of its value on one line: it is short and has no line ends other
than carriage returns. -/
def isSimpleKey (key : String) : Bool :=
  key.length + tagLength < 128 && !key.isEmpty && !key.toList.any fun c => c != '\r' && isBreak c

def simpleKeyChars (indent : Nat) (key : String) : List Char :=
  textChars (styleOf true key) ⟨indent + 2, false⟩ indent key.toList

mutual

/-- A value behind the colon of its key, which ends at `column`. A list is not indented more than
the key. -/
def valueChars (indent column : Nat) : Json → List Char
  | .arr items =>
    if items.isEmpty then " []".toList else newLine indent ++ itemsChars indent true items
  | .obj fields =>
    if fields.isEmpty then " \x7b\x7d".toList
    else newLine (indent + 2) ++ fieldsChars (indent + 2) true fields
  | .null => ' ' :: scalarChars (indent + 2) (column + 1) .null
  | .bool b => ' ' :: scalarChars (indent + 2) (column + 1) (.bool b)
  | .int n => ' ' :: scalarChars (indent + 2) (column + 1) (.int n)
  | .float x => ' ' :: scalarChars (indent + 2) (column + 1) (.float x)
  | .str text => ' ' :: scalarChars (indent + 2) (column + 1) (.str text)

/-- A value behind a sign at the given indentation, on the same line. -/
def nestedChars (indent : Nat) : Json → List Char
  | .arr items => if items.isEmpty then "[]".toList else itemsChars (indent + 2) true items
  | .obj fields =>
    if fields.isEmpty then "\x7b\x7d".toList else fieldsChars (indent + 2) true fields
  | .null => scalarChars (indent + 2) (indent + 2) .null
  | .bool b => scalarChars (indent + 2) (indent + 2) (.bool b)
  | .int n => scalarChars (indent + 2) (indent + 2) (.int n)
  | .float x => scalarChars (indent + 2) (indent + 2) (.float x)
  | .str text => scalarChars (indent + 2) (indent + 2) (.str text)

/-- The items of a list, each behind a dash; all but the first start a line. -/
def itemsChars (indent : Nat) : (isFirst : Bool) → List Json → List Char
  | _, [] => []
  | isFirst, item :: rest =>
    (if isFirst then [] else newLine indent) ++ '-' :: ' ' :: nestedChars indent item ++
      itemsChars indent false rest

/-- The entries of a mapping, each as `key: value`, or with the key and the value behind signs. -/
def fieldsChars (indent : Nat) : (isFirst : Bool) → List (String × Json) → List Char
  | _, [] => []
  | isFirst, (key, value) :: rest =>
    (if isFirst then [] else newLine indent) ++
      (if isSimpleKey key then
        simpleKeyChars indent key ++
          ':' :: valueChars indent (indent + (simpleKeyChars indent key).length + 1) value
      else
        '?' :: ' ' :: scalarChars (indent + 2) (indent + 2) (.str key) ++
          newLine indent ++ ':' :: ' ' :: nestedChars indent value) ++
      fieldsChars indent false rest

end

/-- The lines of a document. -/
def documentChars : Json → List Char
  | .arr items => if items.isEmpty then "[]\n".toList else itemsChars 0 true items ++ ['\n']
  | .obj fields =>
    if fields.isEmpty then "\x7b\x7d\n".toList else fieldsChars 0 true fields ++ ['\n']
  | value => scalarChars 2 0 value ++ ['\n']

end Writer

/-- Writes a document in block style. -/
def write (document : Json) : String := String.ofList (Writer.documentChars document)

end ScenarioCompiler.Yaml
