import ScenarioCompiler.Yaml.Scalar

namespace ScenarioCompiler.Yaml

/-- The types of nodes. -/
inductive Tag where
  | null
  | bool
  | int
  | float
  | timestamp
  | str
  | binary
  | merge
  | value
  | indicator
  | seq
  | map
  | set
  | orderedMap
  | pairs
  | other (uri : String)
  deriving DecidableEq, Repr

namespace Tag

/-- What the names of the common types start with. -/
def commonUri : String := "tag:yaml.org,2002:"

/-- The common types that a document can name. -/
def common : List (String × Tag) := [
  ("null", .null), ("bool", .bool), ("int", .int), ("float", .float), ("timestamp", .timestamp),
  ("str", .str), ("binary", .binary), ("merge", .merge), ("value", .value),
  ("yaml", .indicator), ("seq", .seq), ("map", .map), ("set", .set), ("omap", .orderedMap),
  ("pairs", .pairs)]

def ofUri (uri : String) : Tag :=
  match common.find? fun entry => commonUri ++ entry.1 == uri with
  | some entry => entry.2
  | none => .other uri

/-! Plain scalars get their type from their spelling. -/

def boolWords : List (String × Bool) := [
  ("yes", true), ("Yes", true), ("YES", true), ("no", false), ("No", false), ("NO", false),
  ("true", true), ("True", true), ("TRUE", true), ("false", false), ("False", false),
  ("FALSE", false), ("on", true), ("On", true), ("ON", true), ("off", false), ("Off", false),
  ("OFF", false)]

def nullWords : List String := ["", "~", "null", "Null", "NULL"]

def dropSign : List Char → List Char
  | '+' :: rest => rest
  | '-' :: rest => rest
  | cs => cs

def isDigitOrLine (c : Char) : Bool := c.isDigit || c = '_'

/-- One or more groups `:59` or `:7`, up to the end or a point. -/
def sexagesimalGroups : (fuel : Nat) → List Char → Option (List Char)
  | 0, _ => none
  | fuel + 1, ':' :: rest =>
    let digits := rest.takeWhile Char.isDigit
    let after := rest.dropWhile Char.isDigit
    if digits.length = 1 || (digits.length = 2 && digits.head?.any (· ≤ '5')) then
      if after.head? = some ':' then sexagesimalGroups fuel after else some after
    else none
  | _, _ => none

/-- Digits in groups of sixty with a colon between them. -/
def isSexagesimal (first : List Char) (rest : List Char) (atEnd : List Char → Bool) : Bool :=
  !first.isEmpty && (sexagesimalGroups (rest.length + 1) rest).any atEnd

def isInt (cs : List Char) : Bool :=
  match dropSign cs with
  | '0' :: 'b' :: digits =>
    !digits.isEmpty && digits.all fun c => c = '0' || c = '1' || c = '_'
  | '0' :: 'x' :: digits =>
    !digits.isEmpty && digits.all fun c => (Json.hexValue? c).isSome || c = '_'
  | '0' :: digits => digits.all fun c => ('0' ≤ c && c ≤ '7') || c = '_'
  | c :: rest =>
    c.isDigit &&
      (rest.all isDigitOrLine ||
        isSexagesimal [c] (rest.dropWhile isDigitOrLine) List.isEmpty)
  | [] => false

/-- An exponent with its sign, or nothing. -/
def isExponent : List Char → Bool
  | [] => true
  | e :: sign :: digits =>
    (e = 'e' || e = 'E') && (sign = '+' || sign = '-') && !digits.isEmpty &&
      digits.all Char.isDigit
  | _ => false

def isInfinity (cs : List Char) : Bool :=
  cs = ".inf".toList || cs = ".Inf".toList || cs = ".INF".toList

def isNan (cs : List Char) : Bool :=
  cs = ".nan".toList || cs = ".NaN".toList || cs = ".NAN".toList

def isFloat (cs : List Char) : Bool :=
  let unsigned := dropSign cs
  let whole := unsigned.takeWhile isDigitOrLine
  let rest := unsigned.dropWhile isDigitOrLine
  let startsWithDigit := whole.head?.any Char.isDigit
  match rest with
  | '.' :: fraction =>
    (startsWithDigit && isExponent (fraction.dropWhile isDigitOrLine)) ||
      (whole.isEmpty && unsigned.length = cs.length && fraction.head?.any Char.isDigit &&
        isExponent (fraction.dropWhile isDigitOrLine)) ||
      isInfinity unsigned || isNan cs
  | rest =>
    startsWithDigit && isSexagesimal whole rest fun
      | '.' :: fraction => fraction.all isDigitOrLine
      | _ => false

/-- `count` digits at the head of the text, or any number of digits from `least` to `count`. -/
def takeDigits? (least count : Nat) (cs : List Char) : Option (List Char × List Char) :=
  let run := (cs.takeWhile Char.isDigit).take count
  if least ≤ run.length then some (run, cs.drop run.length) else none

def takeChar? (c : Char) : List Char → Option (List Char)
  | d :: rest => if d = c then some rest else none
  | [] => none

/-- A clock time; the fraction belongs to the second. -/
structure ClockParts where
  hour : List Char
  minute : List Char
  second : List Char
  fraction : List Char
  deriving Repr

/-- The distance of a zone from universal time. -/
structure ZoneParts where
  negative : Bool
  hour : List Char
  minute : List Char
  deriving Repr

/-- The parts of a timestamp. -/
structure TimestampParts where
  year : List Char
  month : List Char
  day : List Char
  clock : Option ClockParts
  zone : Option ZoneParts
  deriving Repr

/-- The zone behind a clock time: nothing, `Z`, or an offset of hours and minutes. -/
def zone? (cs : List Char) : Option (Option ZoneParts) :=
  match cs with
  | [] => some none
  | _ =>
    match cs.dropWhile isInlineBlank with
    | ['Z'] => some (some ⟨false, [], []⟩)
    | sign :: rest =>
      if sign = '+' || sign = '-' then do
        let (hour, rest) ← takeDigits? 1 2 rest
        match rest with
        | [] => some (some ⟨sign = '-', hour, []⟩)
        | ':' :: rest =>
          let (minute, rest) ← takeDigits? 2 2 rest
          if rest.isEmpty then some (some ⟨sign = '-', hour, minute⟩) else none
        | _ => none
      else none
    | [] => none

/-- Splits the text of a timestamp: a date, or a date and a clock time with a zone. -/
def timestampParts? (cs : List Char) : Option TimestampParts := do
  let (year, rest) ← takeDigits? 4 4 cs
  let rest ← takeChar? '-' rest
  let (month, rest) ← takeDigits? 1 2 rest
  let rest ← takeChar? '-' rest
  let (day, rest) ← takeDigits? 1 2 rest
  match rest with
  | [] => some ⟨year, month, day, none, none⟩
  | mark :: more =>
    let rest ← if mark = 'T' || mark = 't' then some more
      else if isInlineBlank mark then some (more.dropWhile isInlineBlank) else none
    let (hour, rest) ← takeDigits? 1 2 rest
    let rest ← takeChar? ':' rest
    let (minute, rest) ← takeDigits? 2 2 rest
    let rest ← takeChar? ':' rest
    let (second, rest) ← takeDigits? 2 2 rest
    let (fraction, rest) := match rest with
      | '.' :: rest => rest.span Char.isDigit
      | rest => ([], rest)
    let zone ← zone? rest
    some ⟨year, month, day, some ⟨hour, minute, second, fraction⟩, zone⟩

/-- A date alone needs two digits for the month and for the day. -/
def isTimestamp (cs : List Char) : Bool :=
  match timestampParts? cs with
  | some parts => parts.clock.isSome || (parts.month.length = 2 && parts.day.length = 2)
  | none => false

/-- The type of a plain scalar. -/
def ofPlain (text : String) : Tag :=
  let cs := text.toList
  if (boolWords.lookup text).isSome then .bool
  else if isFloat cs then .float
  else if isInt cs then .int
  else if text = "<<" then .merge
  else if nullWords.contains text then .null
  else if isTimestamp cs then .timestamp
  else if text = "=" then .value
  else if text = "!" || text = "&" || text = "*" then .indicator
  else .str

/-- The text up to a line feed at its end, which does not count where a spelling is looked for. -/
def dropFinalBreak (cs : List Char) : List Char :=
  match cs.reverse with
  | '\n' :: rest => rest.reverse
  | _ => cs

/-- The type of a scalar that asks for the one of its spelling. -/
def ofSpelling (text : String) : Tag :=
  if text = "\n" then .str else ofPlain (String.ofList (dropFinalBreak text.toList))

end Tag

end ScenarioCompiler.Yaml
