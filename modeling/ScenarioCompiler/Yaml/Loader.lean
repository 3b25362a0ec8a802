import ScenarioCompiler.Yaml.Construct

namespace ScenarioCompiler.Yaml

/-- The loader of documents, which is not part of the compiler. It gives the value of a text or
fails: with an error of the format, or (`Error.value`) with any other exception, of which the
compiler catches none. -/
class Loader where
  load : String → Except Error Datum

/-- The loader that the compiler runs with. -/
instance safeLoader : Loader := ⟨read⟩

/-- The text of a file with all its line ends as line feeds. -/
def unifyLineEnds : List Char → List Char
  | [] => []
  | '\r' :: '\n' :: rest => '\n' :: unifyLineEnds rest
  | '\r' :: rest => '\n' :: unifyLineEnds rest
  | c :: rest => c :: unifyLineEnds rest

/-- Loads the only document of a file. -/
def loadFile [Loader] (text : String) : Except Error Datum :=
  Loader.load (String.ofList (unifyLineEnds text.toList))

end ScenarioCompiler.Yaml
