namespace ScenarioCompiler.Yaml

/-- What can be wrong with the characters of a document. -/
inductive LexicalFault where
  | keyWithoutColon
  | entryNotAllowed
  | keyNotAllowed
  | valueNotAllowed
  | cannotStartToken (c : Char)
  | directive
  | anchorName
  | tagHandle
  | tagEnd
  | uri
  | blockScalarHeader
  | unknownEscape
  | escapeDigits
  | unclosedQuote
  | documentMarkInQuotes
  deriving DecidableEq, Repr

/-- What can be wrong with the order of the tokens. -/
inductive SyntaxFault where
  | nodeExpected
  | blockEndExpected
  | documentStartExpected
  | flowSequenceSeparator
  | flowMappingSeparator
  | duplicateDirective
  | wrongVersion
  | undefinedTagHandle (handle : String)
  deriving DecidableEq, Repr

/-- What can be wrong with the way in which nodes refer to each other. -/
inductive ReferenceFault where
  | undefinedAlias (name : String)
  | duplicateAnchor (name : String)
  | severalDocuments
  deriving DecidableEq, Repr

/-- What can be wrong with the kind of a node. -/
inductive NodeFault where
  | unknownTag (tag : String)
  | scalarExpected
  | sequenceExpected
  | mappingExpected
  | unhashableKey
  | mergeSource
  | pairExpected
  | base64
  deriving DecidableEq, Repr

/-- What can be wrong with the value that a scalar of a known type spells. -/
inductive ValueFault where
  | outOfRange
  | tooLarge
  | tooManyDigits
  | unknownWord (word : String)
  | emptyNumber
  | notATimestamp
  | notText
  | endless
  deriving DecidableEq, Repr

/-- Why a text is not a document. -/
inductive Error where
  | unreadable (c : Char)
  | lexical (fault : LexicalFault)
  | syntactic (fault : SyntaxFault)
  | reference (fault : ReferenceFault)
  | node (fault : NodeFault)
  | value (fault : ValueFault)
  deriving DecidableEq, Repr

end ScenarioCompiler.Yaml
