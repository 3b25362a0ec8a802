import ScenarioCompiler.Settings.Override
import ScenarioCompiler.Settings.Schema
import ScenarioCompiler.Yaml.Loader

namespace ScenarioCompiler.Settings

open Schema

/-- A value that an environment variable has set, and where. -/
structure Origin where
  path : List PathItem
  source : String
  raw : String
  deriving DecidableEq, Repr

/-- Why settings cannot be loaded. -/
inductive LoadError where
  | noFile
  | yaml (error : Yaml.Error)
  | notJson (fault : Datum.JsonFault)
  | notMapping
  | conflict (conflict : Override.Conflict)
  | badValue (fault : Yaml.ValueFault)
  | invalid (problems : List Problem)
  deriving Repr

/-- The value of a variable: its text is read as YAML, which counts only where it gives a list or a
mapping. -/
def decodeRaw [Yaml.Loader] (raw : String) : Except LoadError Datum :=
  match Yaml.Loader.load raw with
  | .ok (.seq items) => .ok (.seq items)
  | .ok (.map entries) => .ok (.map entries)
  | .ok (.loop isMapping) => .ok (.loop isMapping)
  | .ok _ => .ok (.str raw)
  | .error (.value fault) => .error (.badValue fault)
  | .error _ => .ok (.str raw)

/-- The entries of a value that is to be a mapping; anything else gives way to an empty one. -/
def entriesOf : Option Datum → List (Datum × Datum)
  | some (.map entries) => entries
  | _ => []

/-- Sets what the overrides say in the entries of a mapping at `path`; also tells where. -/
def merge [Yaml.Loader] (path : List PathItem) (settings : List (Datum × Datum)) :
    List (String × Override) → Except LoadError (List (Datum × Datum) × List Origin)
  | [] => .ok (settings, [])
  | (name, .nested _ entries) :: rest => do
    let here := path ++ [.name name]
    let (inner, origins) ← merge here (entriesOf (Datum.entry? settings name)) entries
    let (settings, others) ← merge path (Datum.setEntry settings (.str name) (.map inner)) rest
    pure (settings, origins ++ others)
  | (name, .value source raw) :: rest => do
    let value ← decodeRaw raw
    let (settings, others) ← merge path (Datum.setEntry settings (.str name) value) rest
    pure (settings, ⟨path ++ [.name name], source, raw⟩ :: others)

/-- The longest path that is the beginning of another one. -/
def originOf? (origins : List Origin) (path : List PathItem) : Option Origin :=
  (List.range path.length).reverse.findSome? fun k =>
    origins.find? fun o => o.path == path.take (k + 1)

/-- Names the variable in place of the path that it has set. -/
def ascribe (origins : List Origin) (p : Problem) : Problem :=
  match originOf? origins p.path with
  | none => p
  | some origin => { p with
      path :=
        .name (origin.source ++ "=\"" ++ origin.raw ++ "\"") :: p.path.drop origin.path.length }

/-- The entries of the platform's section, where the document has one, or of the document. -/
def platformSection (document : Json) : Except LoadError (List (String × Json)) :=
  match document with
  | .obj fields =>
    match Table.get? fields "csm" with
    | some (.obj csm) =>
      match Table.get? csm "platform" with
      | some (.obj platform) => .ok platform
      | _ => .ok fields
    | _ => .ok fields
  | _ => .error .notMapping

/-- The entries of a document under the variables of an environment, and where these set them. -/
def overlaid [Yaml.Loader] (document : Datum) (environment : Bindings)
    (variablePrefix : String) : Except LoadError (List (Datum × Datum) × List Origin) := do
  let json ← (if document.isVoid then .ok (.obj []) else document.toJson).mapError .notJson
  let fields ← platformSection json
  let overrides ← (Override.ofEnvironment PlatformSettings.decoder.shape variablePrefix
    environment).mapError .conflict
  merge [] (Datum.ofFields fields) overrides

/-- The settings of a document under the variables of an environment. -/
def ofDocument [Yaml.Loader] (document : Datum) (environment : Bindings)
    (variablePrefix : String) : Except LoadError PlatformSettings := do
  let (entries, origins) ← overlaid document environment variablePrefix
  (PlatformSettings.decoder.read (.map entries)).mapError fun problems =>
    .invalid (problems.map (ascribe origins))

/-- Where settings come from. -/
inductive Source where
  | data (document : Datum)
  | file (text : Option String)

/-- The document of a source. -/
def Source.document [Yaml.Loader] : Source → Except LoadError Datum
  | .data document => .ok document
  | .file none => .error .noFile
  | .file (some text) => (Yaml.loadFile text).mapError .yaml

def load [Yaml.Loader] (source : Source) (environment : Bindings) (variablePrefix : String) :
    Except LoadError PlatformSettings := do
  ofDocument (← source.document) environment variablePrefix

/-- The prefix of the variables that override settings. -/
def defaultPrefix : String := "CSM_PLATFORM_"

end ScenarioCompiler.Settings
