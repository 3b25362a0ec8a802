import ScenarioCompiler.Yaml.Lexer
import ScenarioCompiler.Yaml.Tag

namespace ScenarioCompiler.Yaml

/-- The tree of a document. An alias is replaced by the node that it names; `enclosing` is an alias
of a list or a mapping that it is part of. -/
inductive Node where
  | scalar (tag : Tag) (text : String)
  | sequence (tag : Tag) (items : List Node)
  | mapping (tag : Tag) (entries : List (Node × Node))
  | enclosing (anchor : String) (isMapping : Bool)
  deriving Repr, Inhabited

namespace Node

def tagOf : Node → Tag
  | .scalar tag _ => tag
  | .sequence tag _ => tag
  | .mapping tag _ => tag
  | .enclosing _ isMapping => if isMapping then .map else .seq

def isScalar : Node → Bool
  | .scalar .. => true
  | _ => false

def isMergeKey (node : Node) : Bool := node.tagOf = .merge

/-! A list or a mapping that is part of itself has no end. Its tree repeats it inside itself, so
often that nobody who looks for a field comes to the end of that. -/

def repetitions : Nat := 8

mutual

/-- What a merge key names, without the mapping that it belongs to: that adds nothing to itself. -/
def withoutSelf (anchor : String) : Node → Node
  | .scalar tag text => .scalar tag text
  | .sequence tag items => .sequence tag (itemsWithoutSelf anchor items)
  | .mapping tag entries => .mapping tag (entriesWithoutSelf anchor entries)
  | .enclosing other isMapping =>
    if other = anchor then .mapping .map [] else .enclosing other isMapping

def itemsWithoutSelf (anchor : String) : List Node → List Node
  | [] => []
  | item :: rest => withoutSelf anchor item :: itemsWithoutSelf anchor rest

def entriesWithoutSelf (anchor : String) : List (Node × Node) → List (Node × Node)
  | [] => []
  | (key, value) :: rest =>
    (key, if key.isMergeKey then withoutSelf anchor value else value) ::
      entriesWithoutSelf anchor rest

end

mutual

/-- The tree with `node` in the place of the aliases of what encloses them. -/
def fill (anchor : String) (node : Node) : Node → Node
  | .scalar tag text => .scalar tag text
  | .sequence tag items => .sequence tag (fillItems anchor node items)
  | .mapping tag entries => .mapping tag (fillEntries anchor node entries)
  | .enclosing other isMapping => if other = anchor then node else .enclosing other isMapping

def fillItems (anchor : String) (node : Node) : List Node → List Node
  | [] => []
  | item :: rest => fill anchor node item :: fillItems anchor node rest

def fillEntries (anchor : String) (node : Node) : List (Node × Node) → List (Node × Node)
  | [] => []
  | (key, value) :: rest =>
    (fill anchor node key, fill anchor node value) :: fillEntries anchor node rest

end

def repeated (anchor : String) (node : Node) : (count : Nat) → Node
  | 0 => node
  | count + 1 => fill anchor (repeated anchor node count) node

/-- A list or a mapping, repeated in the place of its own aliases. -/
def endless (anchor : String) : Node → Node
  | .mapping tag entries =>
    repeated anchor (.mapping tag (entriesWithoutSelf anchor entries)) repetitions
  | node => repeated anchor node repetitions

/-- The empty node that stands where a key, a value or an item is missing. -/
def empty : Node := .scalar .null ""

/-- Why the tokens are no tree: an error, or the lexer stopped before the tree was complete. -/
inductive Stop where
  | outOfTokens
  | error (e : Error)
  deriving DecidableEq, Repr

/-- The tokens that are still to be read, the tag handles of the document and its anchors. -/
structure Source where
  tokens : List Token
  handles : List (String × String)
  anchors : List (String × Node)

namespace Source

def peek (s : Source) : Except Stop Token :=
  match s.tokens with
  | token :: _ => pure token
  | [] => throw .outOfTokens

def advance (s : Source) : Source := { s with tokens := s.tokens.drop 1 }

/-- Names a node; the name may not be in use unless it belongs to the same node. -/
def bind (s : Source) (anchor : Option String) (node : Node) : Except Stop Source :=
  match anchor with
  | none => pure s
  | some name =>
    if (s.anchors.lookup name).isSome then
      throw (.error (.reference (.duplicateAnchor name)))
    else pure { s with anchors := (name, node) :: s.anchors }

/-- Names a list or a mapping of which the parts are still to be read. -/
def enter (s : Source) (anchor : Option String) (isMapping : Bool) : Except Stop Source :=
  match anchor with
  | none => pure s
  | some name => s.bind anchor (.enclosing name isMapping)

/-- Completes a list or a mapping, also where its parts that have names refer to it. -/
def complete (s : Source) (anchor : Option String) (node : Node) : Node × Source :=
  match anchor with
  | none => (node, s)
  | some name =>
    let node := endless name node
    (node, { s with anchors := s.anchors.map fun a => (a.1, fill name node a.2) })

end Source

def syntaxStop (fault : SyntaxFault) : Stop := .error (.syntactic fault)

/-- The handles that every document knows. -/
def defaultHandles : List (String × String) := [("!", "!"), ("!!", Tag.commonUri)]

/-- The anchor and the tag in front of a node, in either order. -/
def properties (s : Source) :
    Except Stop (Option String × Option (Option String × String) × Source) := do
  match ← s.peek with
  | .anchor name =>
    let s := s.advance
    match ← s.peek with
    | .tag handle suffix => pure (some name, some (handle, suffix), s.advance)
    | _ => pure (some name, none, s)
  | .tag handle suffix =>
    let s := s.advance
    match ← s.peek with
    | .anchor name => pure (some name, some (handle, suffix), s.advance)
    | _ => pure (none, some (handle, suffix), s)
  | _ => pure (none, none, s)

/-- The full name of a tag; `!` alone asks for the type that the node has by default. -/
def fullTag (s : Source) : Option (Option String × String) → Except Stop (Option String)
  | none => pure none
  | some (none, suffix) => pure (some suffix)
  | some (some handle, suffix) =>
    match s.handles.lookup handle with
    | some expansion => pure (some (expansion ++ suffix))
    | none => throw (syntaxStop (.undefinedTagHandle handle))

/-- The type of a node whose tag says nothing about it is `usual`. -/
def tagOr (tag : Option String) (usual : Tag) : Tag :=
  match tag with
  | none => usual
  | some uri => if uri = "!" then usual else .ofUri uri

/-- The type of a scalar: one without a tag is typed by its spelling if it is plain. -/
def scalarTag (tag : Option String) (plain : Bool) (text : String) : Tag :=
  match tag with
  | none => if plain then .ofPlain text else .str
  | some uri => if uri = "!" then .ofSpelling text else .ofUri uri

mutual

/-- One node. `block` tells whether it may be an indented block, and `indentless` whether it may
be a list that is not indented more than its key. -/
def parseNode : (fuel : Nat) → (block indentless : Bool) → Source → Except Stop (Node × Source)
  | 0, _, _, _ => throw .outOfTokens
  | fuel + 1, block, indentless, s => do
    match ← s.peek with
    | .alias name =>
      match s.anchors.lookup name with
      | some node => pure (node, s.advance)
      | none => throw (.error (.reference (.undefinedAlias name)))
    | _ =>
      let (anchor, tag, s) ← properties s
      let uri ← fullTag s tag
      let token ← s.peek
      if indentless && token = .blockEntry then
        let s ← s.enter anchor false
        let (items, s) ← parseIndentlessItems fuel s
        pure (s.complete anchor (Node.sequence (tagOr uri .seq) items))
      else
        match token with
        | .scalar text plain =>
          let node := Node.scalar (scalarTag uri plain text) text
          let s ← s.advance.bind anchor node
          pure (node, s)
        | .flowSequenceStart =>
          let s ← s.advance.enter anchor false
          let (items, s) ← parseFlowItems fuel true s
          pure (s.complete anchor (Node.sequence (tagOr uri .seq) items))
        | .flowMappingStart =>
          let s ← s.advance.enter anchor true
          let (entries, s) ← parseFlowEntries fuel true s
          pure (s.complete anchor (Node.mapping (tagOr uri .map) entries))
        | .blockSequenceStart =>
          if block then
            let s ← s.advance.enter anchor false
            let (items, s) ← parseBlockItems fuel s
            pure (s.complete anchor (Node.sequence (tagOr uri .seq) items))
          else emptyNode anchor uri s
        | .blockMappingStart =>
          if block then
            let s ← s.advance.enter anchor true
            let (entries, s) ← parseBlockEntries fuel s
            pure (s.complete anchor (Node.mapping (tagOr uri .map) entries))
          else emptyNode anchor uri s
        | _ => emptyNode anchor uri s

/-- A node without content is allowed behind an anchor or a tag. -/
def emptyNode (anchor uri : Option String) (s : Source) : Except Stop (Node × Source) := do
  if anchor.isNone && uri.isNone then throw (syntaxStop .nodeExpected)
  let node := Node.scalar (scalarTag uri true "") ""
  let s ← s.bind anchor node
  pure (node, s)

def parseBlockItems : (fuel : Nat) → Source → Except Stop (List Node × Source)
  | 0, _ => throw .outOfTokens
  | fuel + 1, s => do
    match ← s.peek with
    | .blockEntry =>
      let s := s.advance
      let next ← s.peek
      let (item, s) ← if next = .blockEntry || next = .blockEnd then pure (Node.empty, s)
        else parseNode fuel true false s
      let (items, s) ← parseBlockItems fuel s
      pure (item :: items, s)
    | .blockEnd => pure ([], s.advance)
    | _ => throw (syntaxStop .blockEndExpected)

def parseIndentlessItems : (fuel : Nat) → Source → Except Stop (List Node × Source)
  | 0, _ => throw .outOfTokens
  | fuel + 1, s => do
    match ← s.peek with
    | .blockEntry =>
      let s := s.advance
      let next ← s.peek
      let (item, s) ←
        if next = .blockEntry || next = .key || next = .value || next = .blockEnd then
          pure (Node.empty, s)
        else parseNode fuel true false s
      let (items, s) ← parseIndentlessItems fuel s
      pure (item :: items, s)
    | _ => pure ([], s)

/-- The key or the value of an entry in a block. -/
def parseBlockPart : (fuel : Nat) → Source → Except Stop (Node × Source)
  | 0, _ => throw .outOfTokens
  | fuel + 1, s => do
    let next ← s.peek
    if next = .key || next = .value || next = .blockEnd then pure (Node.empty, s)
    else parseNode fuel true true s

def parseBlockEntries : (fuel : Nat) → Source → Except Stop (List (Node × Node) × Source)
  | 0, _ => throw .outOfTokens
  | fuel + 1, s => do
    match ← s.peek with
    | .key =>
      let (key, s) ← parseBlockPart fuel s.advance
      let (value, s) ← parseBlockValue fuel s
      let (entries, s) ← parseBlockEntries fuel s
      pure ((key, value) :: entries, s)
    | .blockEnd => pure ([], s.advance)
    | _ => throw (syntaxStop .blockEndExpected)

def parseBlockValue : (fuel : Nat) → Source → Except Stop (Node × Source)
  | 0, _ => throw .outOfTokens
  | fuel + 1, s => do
    match ← s.peek with
    | .value => parseBlockPart fuel s.advance
    | _ => pure (Node.empty, s)

/-- The items of a list in brackets; an item with a colon is a mapping of one entry. -/
def parseFlowItems : (fuel : Nat) → (first : Bool) → Source → Except Stop (List Node × Source)
  | 0, _, _ => throw .outOfTokens
  | fuel + 1, first, s => do
    if (← s.peek) = .flowSequenceEnd then pure ([], s.advance)
    else
      let s ← if first then pure s
        else if (← s.peek) = .flowEntry then pure s.advance
        else throw (syntaxStop .flowSequenceSeparator)
      match ← s.peek with
      | .key =>
        let (key, s) ← parseFlowPart fuel .flowSequenceEnd true s.advance
        let (value, s) ← parseFlowValue fuel .flowSequenceEnd s
        let (items, s) ← parseFlowItems fuel false s
        pure (Node.mapping .map [(key, value)] :: items, s)
      | .flowSequenceEnd => pure ([], s.advance)
      | _ =>
        let (item, s) ← parseNode fuel false false s
        let (items, s) ← parseFlowItems fuel false s
        pure (item :: items, s)

/-- The key or the value of an entry inside brackets that `close` ends. -/
def parseFlowPart : (fuel : Nat) → (close : Token) → (isKey : Bool) → Source →
    Except Stop (Node × Source)
  | 0, _, _, _ => throw .outOfTokens
  | fuel + 1, close, isKey, s => do
    let next ← s.peek
    if (isKey && next = .value) || next = .flowEntry || next = close then pure (Node.empty, s)
    else parseNode fuel false false s

def parseFlowValue : (fuel : Nat) → (close : Token) → Source → Except Stop (Node × Source)
  | 0, _, _ => throw .outOfTokens
  | fuel + 1, close, s => do
    match ← s.peek with
    | .value => parseFlowPart fuel close false s.advance
    | _ => pure (Node.empty, s)

def parseFlowEntries : (fuel : Nat) → (first : Bool) → Source →
    Except Stop (List (Node × Node) × Source)
  | 0, _, _ => throw .outOfTokens
  | fuel + 1, first, s => do
    if (← s.peek) = .flowMappingEnd then pure ([], s.advance)
    else
      let s ← if first then pure s
        else if (← s.peek) = .flowEntry then pure s.advance
        else throw (syntaxStop .flowMappingSeparator)
      match ← s.peek with
      | .key =>
        let (key, s) ← parseFlowPart fuel .flowMappingEnd true s.advance
        let (value, s) ← parseFlowValue fuel .flowMappingEnd s
        let (entries, s) ← parseFlowEntries fuel false s
        pure ((key, value) :: entries, s)
      | .flowMappingEnd => pure ([], s.advance)
      | _ =>
        let (key, s) ← parseNode fuel false false s
        let (entries, s) ← parseFlowEntries fuel false s
        pure ((key, Node.empty) :: entries, s)

end

/-- The directives in front of a document. -/
def parseDirectives : List Token → (version : Bool) → List (String × String) →
    Except Stop (List (String × String) × List Token)
  | .directive (.version major) :: rest, version, handles =>
    if version then throw (syntaxStop .duplicateDirective)
    else if major != 1 then throw (syntaxStop .wrongVersion)
    else parseDirectives rest true handles
  | .directive (.tagHandle handle expansion) :: rest, version, handles =>
    if (handles.lookup handle).isSome then throw (syntaxStop .duplicateDirective)
    else parseDirectives rest version ((handle, expansion) :: handles)
  | .directive .other :: rest, version, handles => parseDirectives rest version handles
  | [], _, _ => throw .outOfTokens
  | rest, _, handles => pure (handles ++ defaultHandles, rest)

/-- The start of a document that is marked as such. -/
def parseDocumentStart (tokens : List Token) :
    Except Stop (List (String × String) × List Token) := do
  let (handles, rest) ← parseDirectives tokens false []
  match rest with
  | .documentStart :: rest => pure (handles, rest)
  | _ => throw (syntaxStop .documentStartExpected)

/-- Checks that nothing follows the document. -/
def parseEnd (tokens : List Token) : Except Stop Unit := do
  let rest := tokens.dropWhile (· == .documentEnd)
  match rest with
  | [] => throw .outOfTokens
  | .streamEnd :: _ => pure ()
  | _ =>
    let _ ← parseDocumentStart rest
    throw (.error (.reference .severalDocuments))

/-- The tree of the only document among the tokens, and `none` if there is no document. -/
def parse (tokens : List Token) : Except Stop (Option Node) := do
  let fuel := 2 * tokens.length + 4
  match tokens with
  | [] => throw .outOfTokens
  | .streamEnd :: _ => pure none
  | first :: _ =>
    let marked := match first with
      | .directive _ | .documentStart => true
      | _ => false
    let (node, s) ←
      if marked then do
        let (handles, rest) ← parseDocumentStart tokens
        match rest with
        | [] => throw .outOfTokens
        | .directive _ :: _ | .documentStart :: _ | .documentEnd :: _ | .streamEnd :: _ =>
          pure (Node.empty, Source.mk rest handles [])
        | _ => parseNode fuel true false ⟨rest, handles, []⟩
      else parseNode fuel true false ⟨tokens, defaultHandles, []⟩
    let _ ← s.peek
    parseEnd s.tokens
    pure (some node)

end Node

/-- The tree of the only document of a text. -/
def readTree (cs : List Char) : Except Error (Option Node) :=
  let (found, failure) := tokens cs
  match Node.parse found with
  | .ok tree => .ok tree
  | .error (.error e) => .error e
  | .error .outOfTokens => .error (failure.getD (.syntactic .nodeExpected))

end ScenarioCompiler.Yaml
