import ScenarioCompiler.Yaml.Cursor
import ScenarioCompiler.Yaml.Error
import ScenarioCompiler.Json.Reader

namespace ScenarioCompiler.Yaml

def isInlineBlank (c : Char) : Bool := c = ' ' || c = '\t'

/-- How a line break and the empty lines behind it are read in a scalar that is folded: one break
becomes a space, and of several the first disappears. -/
def folded (lineBreak breaks : List Char) : List Char :=
  if lineBreak != ['\n'] then lineBreak ++ breaks
  else if breaks.isEmpty then [' '] else breaks

namespace Quoted

/-- The escapes of one character. -/
def simpleEscapes : List (Char × Char) := [
  ('0', '\x00'), ('a', '\x07'), ('b', '\x08'), ('t', '\t'), ('\t', '\t'), ('n', '\n'),
  ('v', '\x0b'), ('f', '\x0c'), ('r', '\r'), ('e', '\x1b'), (' ', ' '), ('"', '"'), ('\\', '\\'),
  ('/', '/'), ('N', '\x85'), ('_', '\xa0'), ('L', '\u2028'), ('P', '\u2029')]

/-- The escapes that name a code point, with the number of hexadecimal digits. -/
def codeEscapes : List (Char × Nat) := [('x', 2), ('u', 4), ('U', 8)]

/-- The number that hexadecimal digits spell. -/
def hexNumber? (digits : List Char) : Option Nat :=
  digits.foldlM (fun n c => (Json.hexValue? c).map (n * 16 + ·)) 0

/-- The character of a code point; a surrogate is read as the replacement character. -/
def character (code : Nat) : Except Error Char :=
  if 0x7FFFFFFF < code then throw (.value .tooLarge)
  else if 0x10FFFF < code then throw (.value .outOfRange)
  else if 0xD800 ≤ code && code < 0xE000 then pure '\ufffd'
  else pure (Char.ofNat code)

/-- The empty lines behind a line break; a document mark may not stand at the start of a line. -/
def emptyLines : (fuel : Nat) → Cursor → Except Error (List Char × Cursor)
  | 0, c => pure ([], c)
  | fuel + 1, c => do
    if c.atDocumentMark then throw (.lexical .documentMarkInQuotes)
    let c := c.skip isInlineBlank
    if isBreakOrEnd c.peek && c.peek.isSome then
      let (lineBreak, c) := c.lineBreak
      let (more, c) ← emptyLines fuel c
      pure (lineBreak ++ more, c)
    else pure ([], c)

/-- What an escape stands for; the cursor is behind the backslash. -/
def escape (fuel : Nat) (c : Cursor) : Except Error (List Char × Cursor) :=
  match c.peek with
  | none => throw (.lexical .unknownEscape)
  | some ch =>
    match simpleEscapes.lookup ch with
    | some replacement => pure ([replacement], c.step)
    | none =>
      match codeEscapes.lookup ch with
      | some width => do
        let digits := c.step.rest.take width
        if digits.length < width then throw (.lexical .escapeDigits)
        match hexNumber? digits with
        | none => throw (.lexical .escapeDigits)
        | some code =>
          let ch ← character code
          pure ([ch], c.step.forward width)
      | none =>
        if isBreak ch then emptyLines fuel c.lineBreak.2
        else throw (.lexical .unknownEscape)

/-- The characters up to the next blank, line break or closing quote. -/
def word (double : Bool) : (fuel : Nat) → Cursor → Except Error (List Char × Cursor)
  | 0, c => pure ([], c)
  | fuel + 1, c =>
    match c.peek with
    | none => pure ([], c)
    | some ch =>
      if isInlineBlank ch || isBreak ch then pure ([], c)
      else if ch = '\'' && !double then
        if c.peekAt 1 = some '\'' then do
          let (more, c) ← word double fuel (c.forward 2)
          pure ('\'' :: more, c)
        else pure ([], c)
      else if ch = '"' && double then pure ([], c)
      else if ch = '\\' && double then do
        let (text, c) ← escape fuel c.step
        let (more, c) ← word double fuel c
        pure (text ++ more, c)
      else do
        let (more, c) ← word double fuel c.step
        pure (ch :: more, c)

/-- The blanks between two words, with the folding of line breaks. -/
def gap (fuel : Nat) (c : Cursor) : Except Error (List Char × Cursor) := do
  let (blanks, c) := c.span isInlineBlank
  match c.peek with
  | none => throw (.lexical .unclosedQuote)
  | some ch =>
    if isBreak ch then
      let (lineBreak, c) := c.lineBreak
      let (breaks, c) ← emptyLines fuel c
      pure (folded lineBreak breaks, c)
    else pure (blanks, c)

/-- The text up to the closing quote, and the cursor behind it. -/
def body (double : Bool) : (fuel : Nat) → Cursor → Except Error (List Char × Cursor)
  | 0, _ => throw (.lexical .unclosedQuote)
  | fuel + 1, c => do
    let (head, c) ← word double (fuel + 1) c
    if c.peek = some (if double then '"' else '\'') then pure (head, c.step)
    else
      let (blanks, c) ← gap (fuel + 1) c
      let (more, c) ← body double fuel c
      pure (head ++ blanks ++ more, c)

/-- Reads a quoted scalar; the cursor is at its opening quote. -/
def scan (double : Bool) (c : Cursor) : Except Error (List Char × Cursor) :=
  body double (c.rest.length + 1) c.step

end Quoted

namespace Plain

def isFlowIndicator (c : Char) : Bool :=
  c = ',' || c = '[' || c = ']' || c = '\x7b' || c = '\x7d'

/-- Whether a plain scalar ends in front of this text: at a blank, at a colon that ends a key, and
inside brackets also at their punctuation. -/
def ends (flow : Bool) : List Char → Bool
  | [] => true
  | c :: rest =>
    isBlankOrEnd (some c) ||
      (c = ':' && (isBlankOrEnd rest.head? || (flow && rest.head?.any isFlowIndicator))) ||
      (flow && (isFlowIndicator c || c = '?'))

def word (flow : Bool) : List Char → List Char
  | [] => []
  | c :: rest => if ends flow (c :: rest) then [] else c :: word flow rest

/-- The line breaks and spaces behind the first line break, and `none` at a document mark. -/
def emptyLines : (fuel : Nat) → Cursor → Option (List Char) × Cursor
  | 0, c => (some [], c)
  | fuel + 1, c =>
    match c.peek with
    | none => (some [], c)
    | some ch =>
      if ch = ' ' then emptyLines fuel c.step
      else if isBreak ch then
        let (lineBreak, c) := c.lineBreak
        if c.atDocumentMark then (none, c)
        else
          let (more, c) := emptyLines fuel c
          (more.map (lineBreak ++ ·), c)
      else (some [], c)

/-- The blanks behind a word, with the folding of line breaks, and whether a line ended there. -/
def gap (c : Cursor) : List Char × Cursor × Bool :=
  let (blanks, c) := c.span (· == ' ')
  if isBreakOrEnd c.peek && c.peek.isSome then
    let (lineBreak, c) := c.lineBreak
    if c.atDocumentMark then ([], c, true)
    else
      match emptyLines (c.rest.length + 1) c with
      | (none, c) => ([], c, true)
      | (some breaks, c) => (folded lineBreak breaks, c, true)
  else (blanks, c, false)

/-- The words of a plain scalar. In a block it ends where the indentation falls below `indent`.
`blanks` stands in front of the next word, and `lineEnded` tells whether it holds a line break. -/
def body (flow : Bool) (indent : Int) :
    (fuel : Nat) → (blanks : List Char) → (lineEnded : Bool) → Cursor → List Char × Cursor × Bool
  | 0, _, lineEnded, c => ([], c, lineEnded)
  | fuel + 1, blanks, lineEnded, c =>
    let run := word flow c.rest
    if c.peek = some '#' || run.isEmpty then ([], c, lineEnded)
    else
      let (blanks', c', lineEnded') := gap (c.forward run.length)
      if blanks'.isEmpty || c'.peek = some '#' || (!flow && (c'.column : Int) < indent) then
        (blanks ++ run, c', lineEnded')
      else
        let (more, last, ended) := body flow indent fuel blanks' lineEnded' c'
        (blanks ++ run ++ more, last, ended)

/-- Reads a plain scalar, and tells whether a line ended behind its last word. -/
def scan (flow : Bool) (indent : Int) (c : Cursor) : List Char × Cursor × Bool :=
  body flow indent (c.rest.length + 1) [] false c

end Plain

namespace Block

/-- What becomes of the line breaks at the end of a block scalar. -/
inductive Chomping where
  | strip
  | clip
  | keep
  deriving DecidableEq, Repr

def chompingOf? : Option Char → Option Chomping
  | some '+' => some .keep
  | some '-' => some .strip
  | _ => none

/-- The indentation indicator, a digit that is not zero. -/
def indicator (c : Cursor) : Except Error (Option Nat × Cursor) :=
  match c.peek with
  | some ch =>
    if ch.isDigit then
      if ch = '0' then throw (.lexical .blockScalarHeader)
      else pure (some (ch.toNat - 48), c.step)
    else pure (none, c)
  | none => pure (none, c)

/-- The signs behind `|` or `>`, in either order. -/
def header (c : Cursor) : Except Error (Chomping × Option Nat × Cursor) := do
  let (chomping, increment, c) ← match chompingOf? c.peek with
    | some chomping => do
      let (increment, c) ← indicator c.step
      pure (chomping, increment, c)
    | none => do
      let (increment, c) ← indicator c
      match increment, chompingOf? c.peek with
      | some _, some chomping => pure (chomping, increment, c.step)
      | _, _ => pure (Chomping.clip, increment, c)
  if isSpaceOrEnd c.peek then pure (chomping, increment, c)
  else throw (.lexical .blockScalarHeader)

/-- The rest of the header line, which may be a comment. -/
def headerEnd (c : Cursor) : Except Error Cursor :=
  let c := c.skipSpaces
  let c := if c.peek = some '#' then c.skip (!isBreak ·) else c
  if isBreakOrEnd c.peek then pure c.lineBreak.2 else throw (.lexical .blockScalarHeader)

/-- The empty lines at the start, and the widest indentation seen in them. -/
def leadingLines : (fuel : Nat) → (widest : Nat) → Cursor → List Char × Nat × Cursor
  | 0, widest, c => ([], widest, c)
  | fuel + 1, widest, c =>
    match c.peek with
    | none => ([], widest, c)
    | some ch =>
      if ch = ' ' then leadingLines fuel (max widest c.step.column) c.step
      else if isBreak ch then
        let (lineBreak, c) := c.lineBreak
        let (more, widest, c) := leadingLines fuel widest c
        (lineBreak ++ more, widest, c)
      else ([], widest, c)

/-- Moves over the indentation of a line. -/
def indentTo (indent : Nat) (c : Cursor) : Cursor :=
  c.forward (min (indent - c.column) (c.rest.takeWhile (· == ' ')).length)

/-- The empty lines behind a line, up to the indentation of the next one. -/
def emptyLines (indent : Nat) : (fuel : Nat) → Cursor → List Char × Cursor
  | 0, c => ([], c)
  | fuel + 1, c =>
    let c := indentTo indent c
    if isBreakOrEnd c.peek && c.peek.isSome then
      let (lineBreak, c) := c.lineBreak
      let (more, c) := emptyLines indent fuel c
      (lineBreak ++ more, c)
    else ([], c)

/-- The lines of a block scalar, the line break behind the last one and the empty lines that
follow. In a folded scalar two lines are joined by a space unless one of them is indented more. -/
def body (fold : Bool) (indent : Nat) :
    (fuel : Nat) → (breaks : List Char) → Cursor → List Char × List Char × List Char × Cursor
  | 0, breaks, c => ([], [], breaks, c)
  | fuel + 1, breaks, c =>
    if c.column = indent && c.peek.isSome then
      let flush := !(c.peek.any isInlineBlank)
      let (line, c) := c.span (!isBreak ·)
      let (lineBreak, c) := c.lineBreak
      let (breaks', c) := emptyLines indent (c.rest.length + 1) c
      if c.column = indent && c.peek.isSome then
        let joint :=
          if fold && lineBreak = ['\n'] && flush && !(c.peek.any isInlineBlank) then
            if breaks'.isEmpty then [' '] else []
          else lineBreak
        let (more, last, after, c) := body fold indent fuel breaks' c
        (breaks ++ line ++ joint ++ more, last, after, c)
      else (breaks ++ line, lineBreak, breaks', c)
    else ([], [], breaks, c)

/-- Reads a block scalar inside a block of the given indentation; the cursor is at its sign. -/
def scan (fold : Bool) (parentIndent : Int) (c : Cursor) : Except Error (List Char × Cursor) := do
  let (chomping, increment, c) ← header c.step
  let c ← headerEnd c
  let least := max (parentIndent + 1).toNat 1
  let fuel := c.rest.length + 1
  let (indent, breaks, c) := match increment with
    | none =>
      let (breaks, widest, c) := leadingLines fuel 0 c
      (max least widest, breaks, c)
    | some increment =>
      let indent := least + increment - 1
      let (breaks, c) := emptyLines indent fuel c
      (indent, breaks, c)
  let (text, lineBreak, breaks, c) := body fold indent fuel breaks c
  pure (text ++ (if chomping = .strip then [] else lineBreak) ++
    (if chomping = .keep then breaks else []), c)

end Block

end ScenarioCompiler.Yaml
