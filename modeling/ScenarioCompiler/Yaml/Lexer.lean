import ScenarioCompiler.Yaml.Scalar
import ScenarioCompiler.Yaml.Token

namespace ScenarioCompiler.Yaml

/-- The start of a node that becomes the key of a mapping if a colon follows. -/
structure PossibleKey where
  tokenNumber : Nat
  required : Bool
  index : Nat
  line : Nat
  column : Nat
  deriving Repr

/-- The state of the lexer: a colon can turn a token that was already found into a key, so tokens
wait in `queue` until that is settled. `keys` holds a possible key for each depth of brackets, and
`taken` counts the tokens that left the queue. -/
structure Lexer where
  cursor : Cursor
  flowDepth : Nat
  indent : Int
  indents : List Int
  keyAllowed : Bool
  keys : List (Nat × PossibleKey)
  taken : Nat
  queue : List Token
  ended : Bool
  deriving Repr

namespace Lexer

def start (cs : List Char) : Lexer := {
  cursor := .start cs, flowDepth := 0, indent := -1, indents := [], keyAllowed := true, keys := [],
  taken := 0, queue := [], ended := false }

def inFlow (l : Lexer) : Bool := l.flowDepth != 0

def column (l : Lexer) : Int := l.cursor.column

def emit (l : Lexer) (token : Token) : Lexer := { l with queue := l.queue ++ [token] }

/-- Emits a token that is `width` characters long. -/
def emitSign (l : Lexer) (token : Token) (width : Nat) : Lexer :=
  { l with cursor := l.cursor.forward width, queue := l.queue ++ [token] }

/-- Puts a token in front of the one with the given number. -/
def insert (l : Lexer) (tokenNumber : Nat) (token : Token) : Lexer :=
  let place := tokenNumber - l.taken
  { l with queue := l.queue.take place ++ token :: l.queue.drop place }

/-- A key is on one line and at most 1024 characters long. -/
def isStale (l : Lexer) (key : PossibleKey) : Bool :=
  key.line != l.cursor.line || 1024 < l.cursor.index - key.index

/-- Forgets the possible keys that a colon can no longer reach. -/
def dropStale (l : Lexer) : Except Error Lexer :=
  if l.keys.any fun k => l.isStale k.2 && k.2.required then throw (.lexical .keyWithoutColon)
  else pure { l with keys := l.keys.filter fun k => !l.isStale k.2 }

/-- Forgets the possible key of the present depth. -/
def dropKey (l : Lexer) : Except Error Lexer :=
  match l.keys.lookup l.flowDepth with
  | some key =>
    if key.required then throw (.lexical .keyWithoutColon)
    else pure { l with keys := l.keys.filter (·.1 != l.flowDepth) }
  | none => pure l

/-- Notes that the next token may start a key. It has to when it stands at the indentation of a
block mapping. -/
def saveKey (l : Lexer) : Except Error Lexer :=
  if l.keyAllowed then do
    let l ← l.dropKey
    let key : PossibleKey := {
      tokenNumber := l.taken + l.queue.length, required := !l.inFlow && l.indent == l.column,
      index := l.cursor.index, line := l.cursor.line, column := l.cursor.column }
    pure { l with keys := l.keys ++ [(l.flowDepth, key)] }
  else pure l

/-- Closes the blocks that are indented more than `column`. -/
def unwindTo (column : Int) : List Int → Lexer → Lexer
  | outer :: rest, l =>
    if column < l.indent then
      unwindTo column rest { l.emit .blockEnd with indent := outer, indents := rest }
    else l
  | [], l => l

def unwind (l : Lexer) (column : Int) : Lexer :=
  if l.inFlow then l else unwindTo column l.indents l

/-- Opens a block at `column`, unless the present one is indented as much; `token` is what to put
in front of the token with the given number. -/
def openBlock (l : Lexer) (column : Int) (tokenNumber : Nat) (token : Token) : Lexer :=
  if l.indent < column then
    { l with indent := column, indents := l.indent :: l.indents }.insert tokenNumber token
  else l

/-- Spaces, comments and line breaks. A new line of a block may start with a key. -/
def skipBlanks : (fuel : Nat) → Lexer → Lexer
  | 0, l => l
  | fuel + 1, l =>
    let c := l.cursor.skipSpaces
    let c := if c.peek = some '#' then c.skip (!isBreak ·) else c
    if isBreakOrEnd c.peek && c.peek.isSome then
      skipBlanks fuel { l with cursor := c.lineBreak.2, keyAllowed := l.keyAllowed || !l.inFlow }
    else { l with cursor := c }

def toNextToken (l : Lexer) : Lexer :=
  let c := l.cursor
  let c := if c.index = 0 && c.peek = some '\ufeff' then c.step else c
  skipBlanks (c.rest.length + 1) { l with cursor := c }

def word1 (fault : LexicalFault) (c : Cursor) : Except Error (List Char × Cursor) :=
  let (name, c) := c.span isWordChar
  if name.isEmpty then throw (.lexical fault) else pure (name, c)

/-- The decimal number of a version. -/
def versionNumber (c : Cursor) : Except Error (Nat × Cursor) :=
  let (digits, c) := c.span Char.isDigit
  if digits.isEmpty then throw (.lexical .directive) else pure (Json.digitsValue digits, c)

/-- A handle `!`, `!!` or `!name!`. -/
def tagHandle (c : Cursor) : Except Error (List Char × Cursor) :=
  match c.rest with
  | '!' :: ' ' :: _ => pure (['!'], c.step)
  | '!' :: rest =>
    let name := rest.takeWhile isWordChar
    match rest[name.length]? with
    | some '!' => pure ('!' :: name ++ ['!'], c.forward (name.length + 2))
    | _ => throw (.lexical .tagHandle)
  | _ => throw (.lexical .tagHandle)

def isUriChar (c : Char) : Bool :=
  isWordChar c || "-;/?:@&=+$,_.!~*'()[]".toList.contains c

/-- The bytes that a run of percent escapes spells. -/
def escapedBytes : List Char → Except Error (List UInt8 × Nat)
  | '%' :: rest =>
    match rest with
    | a :: b :: rest => do
      match Quoted.hexNumber? [a, b] with
      | some byte =>
        let (bytes, count) ← escapedBytes rest
        pure (byte.toUInt8 :: bytes, count + 3)
      | none => throw (.lexical .uri)
    | _ => throw (.lexical .uri)
  | _ => pure ([], 0)

/-- The characters of a URI. -/
def uriChars : (fuel : Nat) → Cursor → Except Error (List Char × Cursor)
  | 0, c => pure ([], c)
  | fuel + 1, c => do
    if c.peek = some '%' then
      let (bytes, count) ← escapedBytes c.rest
      match String.fromUTF8? ⟨bytes.toArray⟩ with
      | some text =>
        let (more, c) ← uriChars fuel (c.forward count)
        pure (text.toList ++ more, c)
      | none => throw (.lexical .uri)
    else
      let (run, c) := c.span isUriChar
      if run.isEmpty then pure ([], c)
      else
        let (more, c) ← uriChars fuel c
        pure (run ++ more, c)

def uri (c : Cursor) : Except Error (List Char × Cursor) := do
  let (text, after) ← uriChars (c.rest.length + 1) c
  if after.index = c.index then throw (.lexical .uri) else pure (text, after)

def expect (p : Option Char → Bool) (fault : LexicalFault) (c : Cursor) : Except Error Unit :=
  if p c.peek then pure () else throw (.lexical fault)

/-- The content of a directive behind its name. -/
def directiveContent (name : List Char) (c : Cursor) : Except Error (Directive × Cursor) := do
  if name = "YAML".toList then
    let (major, c) ← versionNumber c.skipSpaces
    expect (· == some '.') .directive c
    let (_, c) ← versionNumber c.step
    expect isSpaceOrEnd .directive c
    pure (.version major, c)
  else if name = "TAG".toList then
    let (handle, c) ← tagHandle c.skipSpaces
    expect (· == some ' ') .directive c
    let (expansion, c) ← uri c.skipSpaces
    expect isSpaceOrEnd .directive c
    pure (.tagHandle (String.ofList handle) (String.ofList expansion), c)
  else pure (.other, c.skip (!isBreak ·))

def scanDirective (c : Cursor) : Except Error (Directive × Cursor) := do
  let (name, c) ← word1 .directive c.step
  expect isSpaceOrEnd .directive c
  let (content, c) ← directiveContent name c
  let c := c.skipSpaces
  let c := if c.peek = some '#' then c.skip (!isBreak ·) else c
  expect isBreakOrEnd .directive c
  pure (content, c.lineBreak.2)

/-- The name of an anchor or an alias; the cursor is at its sign. -/
def scanAnchor (c : Cursor) : Except Error (String × Cursor) := do
  let (name, c) ← word1 .anchorName c.step
  expect (fun ch => isBlankOrEnd ch || ch.any "?:,]\x7d%@`".toList.contains) .anchorName c
  pure (String.ofList name, c)

/-- Whether a tag has an exclamation mark behind its first one. -/
def hasHandle (cs : List Char) : Bool :=
  (cs.takeWhile fun c => !isSpaceOrEnd (some c)).contains '!'

def scanTag (c : Cursor) : Except Error (Token × Cursor) := do
  let (token, c) ← match c.rest.drop 1 with
    | '<' :: _ => do
      let (suffix, c) ← uri (c.forward 2)
      expect (· == some '>') .tagEnd c
      pure (Token.tag none (String.ofList suffix), c.step)
    | rest => do
      if isBlankOrEnd rest.head? then pure (Token.tag none "!", c.step)
      else if hasHandle rest then
        let (handle, c) ← tagHandle c
        let (suffix, c) ← uri c
        pure (Token.tag (some (String.ofList handle)) (String.ofList suffix), c)
      else
        let (suffix, c) ← uri c.step
        pure (Token.tag (some "!") (String.ofList suffix), c)
  expect isSpaceOrEnd .tagEnd c
  pure (token, c)

/-- Whether a plain scalar can start here. -/
def startsPlain (l : Lexer) (ch : Char) : Bool :=
  let indicators := "-?:,[]\x7b\x7d#&*!|>'\"%@`".toList
  (!isBlankOrEnd (some ch) && !indicators.contains ch) ||
    (!isBlankOrEnd (l.cursor.peekAt 1) && (ch = '-' || (!l.inFlow && (ch = '?' || ch = ':'))))

/-- Ends every block in front of a line that belongs to no block. -/
def endBlocks (l : Lexer) : Except Error Lexer := do
  let l ← (l.unwind (-1)).dropKey
  pure { l with keyAllowed := false }

def fetchEnd (l : Lexer) : Except Error Lexer := do
  let l ← l.endBlocks
  pure { l with keys := [], ended := true, queue := l.queue ++ [.streamEnd] }

def fetchDirective (l : Lexer) : Except Error Lexer := do
  let l ← l.endBlocks
  let (content, c) ← scanDirective l.cursor
  pure ({ l with cursor := c }.emit (.directive content))

def fetchDocumentMark (l : Lexer) (token : Token) : Except Error Lexer := do
  pure ((← l.endBlocks).emitSign token 3)

def fetchFlowStart (l : Lexer) (token : Token) : Except Error Lexer := do
  let l ← l.saveKey
  pure ({ l with flowDepth := l.flowDepth + 1, keyAllowed := true }.emitSign token 1)

def fetchFlowEnd (l : Lexer) (token : Token) : Except Error Lexer := do
  let l ← l.dropKey
  pure ({ l with flowDepth := l.flowDepth - 1, keyAllowed := false }.emitSign token 1)

def fetchFlowEntry (l : Lexer) : Except Error Lexer := do
  let l ← { l with keyAllowed := true }.dropKey
  pure (l.emitSign .flowEntry 1)

def fetchBlockEntry (l : Lexer) : Except Error Lexer := do
  if !l.inFlow && !l.keyAllowed then throw (.lexical .entryNotAllowed)
  let l := if l.inFlow then l
    else l.openBlock l.column (l.taken + l.queue.length) .blockSequenceStart
  let l ← { l with keyAllowed := true }.dropKey
  pure (l.emitSign .blockEntry 1)

def fetchKey (l : Lexer) : Except Error Lexer := do
  if !l.inFlow && !l.keyAllowed then throw (.lexical .keyNotAllowed)
  let l := if l.inFlow then l
    else l.openBlock l.column (l.taken + l.queue.length) .blockMappingStart
  let l ← { l with keyAllowed := !l.inFlow }.dropKey
  pure (l.emitSign .key 1)

/-- A colon: the possible key of this depth becomes a key, else it belongs to a key that a
question mark announced. -/
def fetchValue (l : Lexer) : Except Error Lexer := do
  match l.keys.lookup l.flowDepth with
  | some key =>
    let l := { l with keys := l.keys.filter (·.1 != l.flowDepth), keyAllowed := false }
    let l := l.insert key.tokenNumber .key
    let l := if l.inFlow then l else l.openBlock key.column key.tokenNumber .blockMappingStart
    pure (l.emitSign .value 1)
  | none =>
    if !l.inFlow && !l.keyAllowed then throw (.lexical .valueNotAllowed)
    let l := if l.inFlow then l
      else l.openBlock l.column (l.taken + l.queue.length) .blockMappingStart
    let l ← { l with keyAllowed := !l.inFlow }.dropKey
    pure (l.emitSign .value 1)

def fetchAnchor (l : Lexer) (token : String → Token) : Except Error Lexer := do
  let l ← l.saveKey
  let (name, c) ← scanAnchor l.cursor
  pure ({ l with keyAllowed := false, cursor := c }.emit (token name))

def fetchTag (l : Lexer) : Except Error Lexer := do
  let l ← l.saveKey
  let (token, c) ← scanTag l.cursor
  pure ({ l with keyAllowed := false, cursor := c }.emit token)

def fetchBlockScalar (l : Lexer) (fold : Bool) : Except Error Lexer := do
  let l ← { l with keyAllowed := true }.dropKey
  let (text, c) ← Block.scan fold l.indent l.cursor
  pure ({ l with cursor := c }.emit (.scalar (String.ofList text) false))

def fetchQuoted (l : Lexer) (double : Bool) : Except Error Lexer := do
  let l ← l.saveKey
  let (text, c) ← Quoted.scan double l.cursor
  pure ({ l with keyAllowed := false, cursor := c }.emit (.scalar (String.ofList text) false))

def fetchPlain (l : Lexer) : Except Error Lexer := do
  let l ← l.saveKey
  let (text, c, lineEnded) := Plain.scan l.inFlow (l.indent + 1) l.cursor
  pure ({ l with keyAllowed := lineEnded, cursor := c }.emit (.scalar (String.ofList text) true))

/-- Reads one token at a character that is not the end of the text. -/
def fetchAt (l : Lexer) (ch : Char) : Except Error Lexer :=
  let c := l.cursor
  let separated := isBlankOrEnd (c.peekAt 1)
  if ch = '%' && c.column = 0 then l.fetchDirective
  else if c.column = 0 && c.atMark ['-', '-', '-'] then l.fetchDocumentMark .documentStart
  else if c.column = 0 && c.atMark ['.', '.', '.'] then l.fetchDocumentMark .documentEnd
  else if ch = '[' then l.fetchFlowStart .flowSequenceStart
  else if ch = '\x7b' then l.fetchFlowStart .flowMappingStart
  else if ch = ']' then l.fetchFlowEnd .flowSequenceEnd
  else if ch = '\x7d' then l.fetchFlowEnd .flowMappingEnd
  else if ch = ',' then l.fetchFlowEntry
  else if ch = '-' && separated then l.fetchBlockEntry
  else if ch = '?' && (l.inFlow || separated) then l.fetchKey
  else if ch = ':' && (l.inFlow || separated) then l.fetchValue
  else if ch = '*' then l.fetchAnchor .alias
  else if ch = '&' then l.fetchAnchor .anchor
  else if ch = '!' then l.fetchTag
  else if ch = '|' && !l.inFlow then l.fetchBlockScalar false
  else if ch = '>' && !l.inFlow then l.fetchBlockScalar true
  else if ch = '\'' then l.fetchQuoted false
  else if ch = '"' then l.fetchQuoted true
  else if l.startsPlain ch then l.fetchPlain
  else throw (.lexical (.cannotStartToken ch))

/-- Reads the tokens that start at the next character. -/
def fetch (l : Lexer) : Except Error Lexer := do
  let l ← l.toNextToken.dropStale
  let l := l.unwind l.column
  match l.cursor.peek with
  | none => l.fetchEnd
  | some ch => l.fetchAt ch

/-- Whether the first token of the queue may still become a key. -/
def headIsPending (l : Lexer) : Bool :=
  l.keys.any (·.2.tokenNumber == l.taken)

/-- The tokens in the order in which they are settled, and what stopped the lexer. -/
def run : (fuel : Nat) → Lexer → List Token × Option Error
  | 0, _ => ([], none)
  | fuel + 1, l =>
    let fetchMore (l : Lexer) : List Token × Option Error :=
      match l.fetch with
      | .ok l => run fuel l
      | .error e => ([], some e)
    match l.queue with
    | [] => if l.ended then ([], none) else fetchMore l
    | token :: queue =>
      if l.ended then
        let (tokens, failure) := run fuel { l with queue := queue, taken := l.taken + 1 }
        (token :: tokens, failure)
      else
        match l.dropStale with
        | .error e => ([], some e)
        | .ok l =>
          if l.headIsPending then fetchMore l
          else
            let (tokens, failure) := run fuel { l with queue := queue, taken := l.taken + 1 }
            (token :: tokens, failure)

end Lexer

/-- The tokens of a text up to the first place where it cannot be read, with the reason. -/
def tokens (cs : List Char) : List Token × Option Error :=
  Lexer.run (8 * cs.length + 16) (.start cs)

end ScenarioCompiler.Yaml
