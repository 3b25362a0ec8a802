import ScenarioCompiler.CommandLine.Console
import ScenarioCompiler.CommandLine.Ending
import ScenarioCompiler.Container.Schema
import ScenarioCompiler.Pipeline.Compile
import ScenarioCompiler.Settings.Report
import ScenarioCompiler.Workflow.Lowering

namespace ScenarioCompiler.CommandLine

/-- What is found under a path; `place` is the path of a file from the root. -/
inductive FileState where
  | missing
  | directory
  | file (place : String) (content : ByteArray)

namespace FileState

def isMissing : FileState → Bool
  | missing => true
  | directory | file .. => false

def place : FileState → String
  | missing | directory => ""
  | file place _ => place

end FileState

/-- The text of a file; `none` stands for a directory. -/
def textOf : FileState → Except Crash (Option String)
  | .missing | .directory => .ok none
  | .file _ content =>
    match String.fromUTF8? content with
    | some text => .ok (some text)
    | none => .error .encoding

/-- Reads the only document of a file; a file that cannot be read or is not YAML ends the
command. -/
def readDocument [Yaml.Loader] (path : String) (file : FileState) : Except Ending Datum :=
  match textOf file with
  | .error crash => .error (.crashed crash)
  | .ok none => .error (.unreadable path)
  | .ok (some text) =>
    match Yaml.loadFile text with
    | .ok document => .ok document
    | .error (.value fault) => .error (.crashed (.yamlValue fault))
    | .error _ => .error (.unreadable path)

/-- How a command ends that cannot load its settings. -/
def settingsEnding (path : String) : Settings.LoadError → Ending
  | .noFile => .unreadable path
  | .yaml (.value fault) | .badValue fault => .crashed (.yamlValue fault)
  | .yaml _ => .unreadable path
  | .notJson fault => .crashed (.settingsNotJson fault)
  | .notMapping => .crashed .settingsNotMapping
  | error => .invalidSettings error

/-- Loads settings; what is wrong with them is reported if that is possible. -/
def loadSettings [Yaml.Loader] (path : String) (document : Datum) (environment : Bindings) :
    Except Ending PlatformSettings :=
  (Settings.reported document environment Settings.defaultPrefix).mapError (settingsEnding path)

def readSettings [Yaml.Loader] (path : String) (file : FileState) (environment : Bindings) :
    Except Ending PlatformSettings := do
  loadSettings path (← readDocument path file) environment

/-- Whether the entries of a mapping have texts for keys. -/
def hasTextKeys (entries : List (Datum × Datum)) : Bool :=
  entries.all fun e => match e.1 with
    | .str _ => true
    | _ => false

/-- How a command ends that finds an invalid request in the file at a place. -/
def requestEnding [Console] (place : String) (problems : List Schema.Problem) : Ending :=
  if Console.shows place problems then .invalidRequest problems else .crashed .markInPath

/-- The request in the document of the file at a place; a void document is an empty request. -/
def requestOf [Schema.IntegerReader] [Console] (place : String) (document : Datum) :
    Except Ending RunRequest :=
  let read (entries : List (Datum × Datum)) :=
    (RunRequest.decoder.read (.map entries)).mapError (requestEnding place)
  if document.isVoid then read []
  else match document with
    | .map entries =>
      if hasTextKeys entries then read entries else .error (.crashed .requestNotRecord)
    | _ => .error (.crashed .requestNotRecord)

def readRequest [Yaml.Loader] [Schema.IntegerReader] [Console] (path : String)
    (file : FileState) : Except Ending RunRequest := do
  requestOf file.place (← readDocument path file)

/-- Assumes that every event hub exists, or asks for none. -/
def checkerOf (assumeControlPlane : Bool) : EventHubChecker :=
  if assumeControlPlane then some fun _ => true else none

/-- A document in the format of a command. -/
def Format.write (format : Format) (document : Json) : String :=
  match format with
  | .yaml => Yaml.write document
  | .json => Json.write (some 2) document

/-- What a command prints about a compiled run. -/
def documentOf (target : Target) (settings : PlatformSettings) (request : RunRequest)
    (template : RunTemplate) (start : RunStart) : Json :=
  match target with
  | .workflow =>
    (Workflow.ofStart settings start template.executionTimeout request.solution.alwaysPull).document
  | .pipeline => start.document

/-- A compiled run, with the run template that it was compiled from. -/
def compiled (command : Command) (settings : PlatformSettings) (request : RunRequest)
    (freshId : String) : Except Failure (RunStart × RunTemplate) := do
  let checker := checkerOf command.assumeControlPlane
  let start ← (Pipeline.start settings checker request freshId).outcome
  let template ← request.solution.template request.scenario.runTemplateId
  pure (start, template)

/-- Whether what a command prints can be written: a timeout may have too many digits for that. -/
def writable (target : Target) (template : RunTemplate) : Bool :=
  match target with
  | .workflow => template.executionTimeout.all Datum.hasText
  | .pipeline => true

/-- Compiles a request and writes what the command asks for. -/
def compile (command : Command) (settings : PlatformSettings) (request : RunRequest)
    (freshId : String) : Except Ending String := do
  let (start, template) ← (compiled command settings request freshId).mapError .failed
  if writable command.target template then
    pure (command.format.write (documentOf command.target settings request template start))
  else throw (.crashed (.yamlValue .tooManyDigits))

/-- Runs a command on the files that it names. -/
def execute [Yaml.Loader] [Schema.IntegerReader] [Console] (command : Command)
    (files : String → FileState) (environment : Bindings) (freshId : String) :
    Except Ending String :=
  match [command.request, command.platform].find? fun path => (files path).isMissing with
  | some path => .error (.usage (.noSuchFile path))
  | none => do
    let settings ← readSettings command.platform (files command.platform) environment
    let request ← readRequest command.request (files command.request)
    compile command settings request freshId

/-- Runs a command line; a document that is printed is followed by an empty line. -/
def run [Yaml.Loader] [Schema.IntegerReader] [Console] (arguments : List String)
    (files : String → FileState) (environment : Bindings) (freshId : String) : Ending :=
  match parse arguments environment with
  | .error e => .usage e
  | .ok .help => .help
  | .ok (.run command) =>
    match execute command files environment freshId with
    | .ok text => .printed (text ++ "\n")
    | .error ending => ending

end ScenarioCompiler.CommandLine
