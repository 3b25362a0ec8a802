import ScenarioCompiler.Bindings

namespace ScenarioCompiler.CommandLine

inductive Format where
  | yaml
  | json
  deriving DecidableEq, Repr

def Format.ofName? (name : String) : Option Format :=
  if name = "yaml" then some .yaml else if name = "json" then some .json else none

/-- What is printed: the workflow of a run, or its containers. -/
inductive Target where
  | workflow
  | pipeline
  deriving DecidableEq, Repr

def Target.ofName? (name : String) : Option Target :=
  if name = "compile" then some .workflow
  else if name = "pipeline" then some .pipeline
  else none

/-- A command with the paths that it reads. -/
structure Command where
  target : Target
  request : String
  platform : String
  format : Format
  assumeControlPlane : Bool
  deriving DecidableEq, Repr

/-- What arguments ask for. -/
inductive Invocation where
  | help
  | run (command : Command)
  deriving DecidableEq, Repr

/-- Why arguments are no command. -/
inductive UsageError where
  | missingCommand
  | unknownCommand (name : String)
  | unknownOption (name : String)
  | missingValue (option : String)
  | unexpectedValue (option : String)
  | unknownFormat (name : String)
  | missingPlatform
  | missingRequest
  | extraArgument (argument : String)
  | noSuchFile (path : String)
  deriving DecidableEq, Repr

def UsageError.message : UsageError → String
  | missingCommand => "Missing command."
  | unknownCommand name => "No such command '" ++ name ++ "'."
  | unknownOption name => "No such option: " ++ name
  | missingValue option => "Option '" ++ option ++ "' requires an argument."
  | unexpectedValue option => "Option '" ++ option ++ "' does not take a value."
  | unknownFormat name =>
    "Invalid value for '-o' / '--output-format': '" ++ name ++ "' is not one of 'yaml', 'json'."
  | missingPlatform => "Missing option '-p' / '--platform'."
  | missingRequest => "Missing argument 'RUN_REQUEST'."
  | extraArgument argument => "Got unexpected extra argument (" ++ argument ++ ")"
  | noSuchFile path => "Path '" ++ path ++ "' does not exist."

def usageText : String :=
  "Usage: scenario-compiler [-v] (compile | pipeline) [OPTIONS] RUN_REQUEST\n"

def optionsText : String :=
  "\nCompiles the run template of a scenario into a workflow, and prints the workflow or\n" ++
  "the containers of its pipeline.\n\n" ++
  "  -p, --platform FILE           the YAML file with the platform settings\n" ++
  "  -o, --output-format FORMAT    yaml or json\n" ++
  "  --assume-control-plane        assume that the event hub of the control plane exists\n" ++
  "  -v, --verbose                 use verbose output\n" ++
  "  -h, --help                    show this message\n"

/-- The form of one argument: an option begins with a dash and has more to it. -/
inductive Word where
  | plain
  | endOfOptions
  | long (name : String) (value : Option String)
  | short (letters : List Char)
  deriving DecidableEq, Repr

def Word.of (argument : String) : Word :=
  match argument.toList with
  | ['-', '-'] => .endOfOptions
  | '-' :: '-' :: rest =>
    match rest.span (· ≠ '=') with
    | (name, _ :: value) => .long (String.ofList ('-' :: '-' :: name)) (String.ofList value)
    | (name, []) => .long (String.ofList ('-' :: '-' :: name)) none
  | '-' :: c :: rest => .short (c :: rest)
  | _ => .plain

/-- The options of a command. -/
inductive Switch where
  | help
  | platform
  | format
  | assumeControlPlane
  deriving DecidableEq, Repr

namespace Switch

def takesValue : Switch → Bool
  | platform | format => true
  | help | assumeControlPlane => false

def ofLong? (name : String) : Option Switch :=
  Table.get? [("--help", help), ("--platform", platform), ("--output-format", format),
    ("--assume-control-plane", assumeControlPlane)] name

def ofShort? (c : Char) : Option Switch :=
  if c = 'h' then some help
  else if c = 'p' then some platform
  else if c = 'o' then some format
  else none

end Switch

/-- What the arguments of a command say; of an option given twice the last value counts. -/
structure Options where
  plain : List String := []
  platform : Option String := none
  format : Option String := none
  assumeControlPlane : Bool := false
  help : Bool := false
  deriving DecidableEq, Repr

namespace Options

def setFlag (options : Options) : Switch → Options
  | .help => { options with help := true }
  | .assumeControlPlane => { options with assumeControlPlane := true }
  | .platform | .format => options

def setValue (options : Options) (value : String) : Switch → Options
  | .platform => { options with platform := value }
  | .format => { options with format := value }
  | .help | .assumeControlPlane => options

/-- Sets the options of a group of letters; the last of them may be left to wait for its value. -/
def setLetters (options : Options) : List Char → Except UsageError (Options × Option Switch)
  | [] => .ok (options, none)
  | c :: rest =>
    match Switch.ofShort? c with
    | none => .error (.unknownOption (String.ofList ['-', c]))
    | some switch =>
      if switch.takesValue then
        if rest.isEmpty then .ok (options, some switch)
        else .ok (options.setValue (String.ofList rest) switch, none)
      else setLetters (options.setFlag switch) rest

/-- Sets a long option, which may be left to wait for its value. -/
def setLong (options : Options) (name : String) (value : Option String) :
    Except UsageError (Options × Option Switch) :=
  match Switch.ofLong? name with
  | none => .error (.unknownOption name)
  | some switch =>
    match value with
    | some value =>
      if switch.takesValue then .ok (options.setValue value switch, none)
      else .error (.unexpectedValue name)
    | none =>
      if switch.takesValue then .ok (options, some switch)
      else .ok (options.setFlag switch, none)

/-- Reads arguments in any order. `waiting` is the option, with its spelling, whose value is the
next argument. -/
def read (options : Options) (waiting : Option (Switch × String)) :
    List String → Except UsageError Options
  | [] =>
    match waiting with
    | none => .ok options
    | some (_, spelling) => .error (.missingValue spelling)
  | argument :: rest =>
    match waiting with
    | some (switch, _) => read (options.setValue argument switch) none rest
    | none =>
      match Word.of argument with
      | .plain => read { options with plain := options.plain ++ [argument] } none rest
      | .endOfOptions => .ok { options with plain := options.plain ++ rest }
      | .long name value => do
        let (options, waiting) ← setLong options name value
        read options (waiting.map (·, name)) rest
      | .short letters => do
        let (options, waiting) ← setLetters options letters
        read options (waiting.map (·, argument)) rest

end Options

/-- The variable with the path of the platform settings where the option is not given. -/
def platformVariable : String := "SCENARIORUN_PLATFORM_SETTINGS"

/-- The command that options spell out. -/
def commandOf (target : Target) (environment : Bindings) (options : Options) :
    Except UsageError Invocation :=
  if options.help then .ok .help
  else
    let fromVariable := (environment.get? platformVariable).filter (!·.isEmpty)
    let format := options.format.getD "yaml"
    match options.plain, options.platform.or fromVariable, Format.ofName? format with
    | _ :: extra :: _, _, _ => .error (.extraArgument extra)
    | [], _, _ => .error .missingRequest
    | _, none, _ => .error .missingPlatform
    | _, _, none => .error (.unknownFormat format)
    | [request], some platform, some format =>
      .ok (.run ⟨target, request, platform, format, options.assumeControlPlane⟩)

/-- The letters before the command: they ask for more messages, or for help. -/
def readCommonLetters (help : Bool) : List Char → Except UsageError Bool
  | [] => .ok help
  | c :: rest =>
    if c = 'v' then readCommonLetters help rest
    else if c = 'h' then readCommonLetters true rest
    else .error (.unknownOption (String.ofList ['-', c]))

/-- An option before the command; tells whether help is asked for. -/
def readCommonOption (help : Bool) : Word → Except UsageError Bool
  | .long name value =>
    if name = "--verbose" || name = "--help" then
      match value with
      | some _ => .error (.unexpectedValue name)
      | none => .ok (help || name = "--help")
    else .error (.unknownOption name)
  | .short letters => readCommonLetters help letters
  | .plain | .endOfOptions => .ok help

/-- Reads a command behind the options that all commands share. -/
def readNamed (environment : Bindings) (help : Bool) :
    List String → Except UsageError Invocation
  | [] => if help then .ok .help else .error .missingCommand
  | name :: rest =>
    if help then .ok .help
    else match Target.ofName? name with
      | none => .error (.unknownCommand name)
      | some target => do
        let options ← Options.read {} none rest
        commandOf target environment options

/-- Reads a whole command line. -/
def readFrom (environment : Bindings) (help : Bool) :
    List String → Except UsageError Invocation
  | [] => readNamed environment help []
  | argument :: rest =>
    match Word.of argument with
    | .plain => readNamed environment help (argument :: rest)
    | .endOfOptions => readNamed environment help rest
    | word => do
      let help ← readCommonOption help word
      readFrom environment help rest

def parse (arguments : List String) (environment : Bindings) : Except UsageError Invocation :=
  readFrom environment false arguments

end ScenarioCompiler.CommandLine
