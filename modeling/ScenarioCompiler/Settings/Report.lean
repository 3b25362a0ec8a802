import ScenarioCompiler.Settings.Load

namespace ScenarioCompiler

namespace Datum

/-- Why a key has no text. -/
def keyFault? (key : Datum) : Option JsonFault :=
  match keyText key with
  | .ok _ => none
  | .error fault => some fault

/-- Whether a value is an integer without a text. -/
def isTooLong : Datum → Bool
  | .int n => !hasText n
  | _ => false

mutual

/-- Why a value cannot be shown as JSON, where what JSON does not have is shown by its text. Only
keys need to be what JSON has. -/
def reportFault? : Datum → Option JsonFault
  | .null | .bool _ | .float _ | .str _ | .bytes _ | .date .. | .moment _ => none
  | .int n => if hasText n then none else some .tooManyDigits
  | .seq items => reportFaultOfItems? items
  | .set items => if items.any isTooLong then some .tooManyDigits else none
  | .map entries => reportFaultOfEntries? entries
  | .loop _ => some .circular

def reportFaultOfItems? : List Datum → Option JsonFault
  | [] => none
  | item :: rest => (reportFault? item).or (reportFaultOfItems? rest)

def reportFaultOfEntries? : List (Datum × Datum) → Option JsonFault
  | [] => none
  | (key, value) :: rest =>
    (keyFault? key).or ((reportFault? value).or (reportFaultOfEntries? rest))

end

end Datum

namespace Settings

open Schema

/-- The last step of the way to a faulty key of a mapping. -/
def keyMark : PathItem := .name "[key]"

/-- What a problem below a value is about: the mapping that lacks a field, a key, or the value to
which its path leads. -/
def subject (cause : Cause) : Datum → List PathItem → Datum
  | value, [] => value
  | value, item :: rest =>
    if rest.isEmpty && cause = .missing then value
    else match value with
      | .map entries =>
        match entries.find? fun e => PathItem.ofKey e.1 = item with
        | none => value
        | some (key, inner) =>
          if (rest.isEmpty && cause = .keyNotText) || (rest = [keyMark] && cause ≠ .extra) then key
          else subject cause inner rest
      | .seq items | .set items =>
        match item with
        | .number n => subject cause (items.getD n.toNat .null) rest
        | .name _ => value
      | _ => value

/-- Why the problems of settings cannot be reported, where that is so: a report shows what they are
about. -/
def reportFault? [Yaml.Loader] (document : Datum) (environment : Bindings)
    (variablePrefix : String) : Option Datum.JsonFault :=
  match overlaid document environment variablePrefix with
  | .error _ => none
  | .ok (entries, _) =>
    (PlatformSettings.decoder.read (.map entries)).problems.findSome? fun p =>
      (subject p.cause (.map entries) p.path).reportFault?

/-- The settings of a document; where the report of what is wrong with them cannot be written, that
is what is wrong. -/
def reported [Yaml.Loader] (document : Datum) (environment : Bindings)
    (variablePrefix : String) : Except LoadError PlatformSettings :=
  (ofDocument document environment variablePrefix).mapError fun error =>
    match reportFault? document environment variablePrefix with
    | none => error
    | some fault => .notJson fault

end Settings

end ScenarioCompiler
