import ScenarioCompiler.Bindings
import ScenarioCompiler.Datum
import ScenarioCompiler.Json.Reader
import ScenarioCompiler.Text.Blank
import ScenarioCompiler.Text.Quoted

namespace ScenarioCompiler.Schema

/-- One step of the way from a document to a value inside it. -/
inductive PathItem where
  | name (name : String)
  | number (n : Int)
  deriving DecidableEq, Repr, Inhabited

/-- Why a value does not fit where it stands. -/
inductive Cause where
  | missing
  | extra
  | keyNotText
  | notText
  | textEncoding
  | notBool
  | boolSpelling
  | notInteger
  | integerSpelling
  | integerLength
  | integerText
  | fractional
  | notFinite
  | notList
  | notMapping
  | notRecord (record : String)
  | notMember (first : String) (others : List String)
  deriving DecidableEq, Repr

/-- A value that does not fit, and where it stands. -/
structure Problem where
  path : List PathItem
  cause : Cause
  deriving DecidableEq, Repr

namespace Cause

def code : Cause → String
  | missing => "missing"
  | extra => "extra_forbidden"
  | keyNotText => "invalid_key"
  | notText => "string_type"
  | textEncoding => "string_unicode"
  | notBool => "bool_type"
  | boolSpelling => "bool_parsing"
  | notInteger => "int_type"
  | integerSpelling => "int_parsing"
  | integerLength => "int_parsing_size"
  | integerText => "value_error"
  | fractional => "int_from_float"
  | notFinite => "finite_number"
  | notList => "list_type"
  | notMapping => "dict_type"
  | notRecord _ => "model_type"
  | notMember .. => "enum"

/-- Alternatives in a sentence: commas, and "or" before the last one. -/
def alternatives (first : String) : List String → String
  | [] => "'" ++ first ++ "'"
  | [last] => "'" ++ first ++ "' or '" ++ last ++ "'"
  | second :: rest => "'" ++ first ++ "', " ++ alternatives second rest

def message : Cause → String
  | missing => "Field required"
  | extra => "Extra inputs are not permitted"
  | keyNotText => "Keys should be strings"
  | notText => "Input should be a valid string"
  | textEncoding => "Input should be a valid string, unable to parse raw data as a unicode string"
  | notBool => "Input should be a valid boolean"
  | boolSpelling => "Input should be a valid boolean, unable to interpret input"
  | notInteger => "Input should be a valid integer"
  | integerSpelling => "Input should be a valid integer, unable to parse string as an integer"
  | integerLength => "Unable to parse input string as an integer, exceeded maximum size"
  | integerText => "Value error, Exceeds the limit (4300 digits) for integer string conversion; " ++
    "use sys.set_int_max_str_digits() to increase the limit"
  | fractional => "Input should be a valid integer, got a number with a fractional part"
  | notFinite => "Input should be a finite number"
  | notList => "Input should be a valid list"
  | notMapping => "Input should be a valid dictionary"
  | notRecord record => "Input should be a valid dictionary or instance of " ++ record
  | notMember first others => "Input should be " ++ alternatives first others

end Cause

/-- Whether an integer has 64 bits. -/
def isInt64 (n : Int) : Bool := -9223372036854775808 ≤ n && n ≤ 9223372036854775807

namespace PathItem

/-- Keys that are integers of 64 bits count as numbers. -/
def ofInt (n : Int) : PathItem := if isInt64 n then .number n else .name (toString n)

def specialNames : Binary64.SpecialNames := ⟨"nan", "inf"⟩

/-- What makes a value, as a call with arguments. -/
def call (name : String) (arguments : List String) : String :=
  name ++ "(" ++ ", ".intercalate arguments ++ ")"

/-- A zone by its offset, which is counted in seconds from the start of a day. -/
def zoneText (minutes : Int) : String :=
  if minutes = 0 then "datetime.timezone.utc"
  else
    let days := if minutes < 0 then ["days=-1"] else []
    let seconds := "seconds=" ++ toString (minutes % (24 * 60) * 60)
    call "datetime.timezone" [call "datetime.timedelta" (days ++ [seconds])]

/-- A moment with the parts of its second that are not zero. -/
def momentText (m : Moment) : String :=
  let fraction := if m.microsecond = 0 then [] else [m.microsecond]
  let second := if m.second = 0 && fraction.isEmpty then [] else m.second :: fraction
  let zone := match m.offset with
    | none => []
    | some minutes => ["tzinfo=" ++ zoneText minutes]
  call "datetime.datetime"
    (([m.year, m.month, m.day, m.hour, m.minute] ++ second).map (toString ·) ++ zone)

/-- Bytes in quotes; of those above ASCII none can be printed. -/
def bytesText (bytes : List UInt8) : String :=
  let cs := bytes.map fun b => Char.ofNat b.toNat
  let quote := Text.quoteMark cs
  let shown := cs.flatMap fun c =>
    if c.toNat < 128 then Text.quotedChar quote c else '\\' :: 'x' :: Text.hexDigits 2 c.toNat
  String.ofList ('b' :: quote :: shown ++ [quote])

/-- The place of an entry of a mapping under its key. -/
def ofKey : Datum → PathItem
  | .str s => .name s
  | .int n => ofInt n
  | .bool b => .number (if b then 1 else 0)
  | .null => .name "None"
  | .float x => .name (x.toText specialNames)
  | .date y m d => .name (call "datetime.date" [toString y, toString m, toString d])
  | .moment m => .name (momentText m)
  | .bytes b => .name (bytesText b)
  | .seq _ | .set _ | .map _ | .loop _ => .name ""

def toJson : PathItem → Json
  | .name s => .str s
  | .number n => .int n

end PathItem

namespace Problem

/-- The problem as seen from the value one level up. -/
def under (item : PathItem) (p : Problem) : Problem := { p with path := item :: p.path }

def toJson (p : Problem) : Json := .obj [
  ("type", .str p.cause.code),
  ("loc", .arr (p.path.map PathItem.toJson)),
  ("msg", .str p.cause.message)]

end Problem

end ScenarioCompiler.Schema
