import ScenarioCompiler.Datum
import ScenarioCompiler.Text.Blank
import ScenarioCompiler.Text.LowerCase
import ScenarioCompiler.Text.Numeral
import ScenarioCompiler.Text.Search
import ScenarioCompiler.Yaml.Node

namespace ScenarioCompiler.Yaml

/-! Values of scalars -/

def withoutLines (text : String) : List Char := text.toList.filter (· != '_')

def faulty {α : Type} (fault : ValueFault) : Except Error α := .error (.value fault)

/-- The number that digits of a base spell; there has to be one. -/
def digitsIn (base : Nat) (cs : List Char) : Except Error Nat :=
  if cs.isEmpty then faulty .outOfRange
  else
    match cs.foldlM (fun n c => do
      let d ← Json.hexValue? c
      if d < base then some (n * base + d) else none) 0 with
    | some n => .ok n
    | none => faulty .outOfRange

/-- The digits of a number behind the letter of its base, where that stands there. -/
def dropBase : (base : Nat) → List Char → List Char
  | 2, '0' :: letter :: digits =>
    if letter = 'b' || letter = 'B' then digits else '0' :: letter :: digits
  | 8, '0' :: letter :: digits =>
    if letter = 'o' || letter = 'O' then digits else '0' :: letter :: digits
  | 16, '0' :: letter :: digits =>
    if letter = 'x' || letter = 'X' then digits else '0' :: letter :: digits
  | _, digits => digits

def isNegative (cs : List Char) : Bool := cs.head? = some '-'

/-- The integer that a text spells in a base, with a sign if it has one. In base ten more than 4300
digits are refused. -/
def integerIn (base : Nat) (cs : List Char) : Except Error Int := do
  let cs := Text.numerals cs
  let digits := dropBase base (Tag.dropSign cs)
  if base = 10 && Json.digitLimit < digits.length then faulty .tooManyDigits
  else
    let n : Int ← digitsIn base digits
    pure (if isNegative cs then -n else n)

/-- The value of groups of base sixty. -/
def sexagesimal (groups : List Int) : Int := groups.foldl (fun n g => n * 60 + g) 0

/-- The sign counts once more if the rest of the text has one of its own. -/
def intValue (text : String) : Except Error Int := do
  let cs := withoutLines text
  let unsigned := Tag.dropSign cs
  let n ← match unsigned with
    | [] => faulty .emptyNumber
    | ['0'] => pure 0
    | '0' :: 'b' :: digits => integerIn 2 digits
    | '0' :: 'x' :: digits => integerIn 16 digits
    | '0' :: _ => integerIn 8 unsigned
    | _ =>
      if unsigned.contains ':' then do
        pure (sexagesimal (← (Text.splitAll [':'] unsigned).mapM (integerIn 10)))
      else integerIn 10 unsigned
  pure (if isNegative cs then -n else n)

/-- A decimal fraction as digits and a power of ten. -/
def fractionOf? (cs : List Char) : Option (Nat × Int) :=
  let whole := cs.takeWhile Char.isDigit
  let (fraction, rest) := match cs.dropWhile Char.isDigit with
    | '.' :: rest => (rest.takeWhile Char.isDigit, rest.dropWhile Char.isDigit)
    | rest => ([], rest)
  let digits := whole ++ fraction
  let (exponent, rest) := Json.readExponent rest
  if digits.isEmpty || !rest.isEmpty then none
  else some (Json.digitsValue digits, exponent.getD 0 - fraction.length)

/-- The number that a text in lower case spells, with a sign if it has one. -/
def fractionValue (cs : List Char) : Except Error Binary64 :=
  let cs := Text.numerals cs
  let negative := isNegative cs
  let unsigned := Tag.dropSign cs
  if ["inf", "infinity"].contains (String.ofList unsigned) then .ok (.infinite negative)
  else if unsigned = "nan".toList then .ok .nan
  else
    match fractionOf? unsigned with
    | some (digits, exponent) => .ok (.ofDecimal negative digits exponent)
    | none => faulty .outOfRange

/-- Adds the groups of base sixty from the last one on, each of them `scale` times; every step is
rounded. -/
def sexagesimalSum (sum : Binary64) (scale : Nat) : List Binary64 → Except Error Binary64
  | [] => .ok sum
  | group :: rest =>
    match Binary64.ofRatio false scale 1 with
    | .infinite _ => faulty .tooLarge
    | factor => sexagesimalSum (sum.add (group.mul factor)) (scale * 60) rest

def floatValue (text : String) : Except Error Binary64 := do
  let cs := (withoutLines text).map Char.toLower
  let unsigned := Tag.dropSign cs
  if cs.isEmpty then faulty .emptyNumber
  else
    let x ← if unsigned = ".inf".toList then pure (.infinite false)
      else if unsigned = ".nan".toList then pure .nan
      else if unsigned.contains ':' then do
        let groups ← (Text.splitAll [':'] unsigned).mapM fractionValue
        sexagesimalSum (.zero false) 1 groups.reverse
      else fractionValue unsigned
    pure (if isNegative cs then x.neg else x)

def boolValue (text : String) : Except Error Bool :=
  match Tag.boolWords.lookup (Text.lowerCase text) with
  | some b => .ok b
  | none => faulty (.unknownWord (Text.lowerCase text))

def isLeapYear (year : Nat) : Bool :=
  year % 4 = 0 && (year % 100 != 0 || year % 400 = 0)

def daysIn (year month : Nat) : Nat :=
  if month = 2 then (if isLeapYear year then 29 else 28)
  else if month = 4 || month = 6 || month = 9 || month = 11 then 30 else 31

def isDate (year month day : Nat) : Bool :=
  1 ≤ year && 1 ≤ month && month ≤ 12 && 1 ≤ day && day ≤ daysIn year month

def isClock (hour minute second : Nat) : Bool := hour < 24 && minute < 60 && second < 60

/-- A fraction of a second in millionths; digits beyond the sixth are dropped. -/
def microseconds (fraction : List Char) : Nat :=
  Json.digitsValue ((fraction ++ List.replicate 6 '0').take 6)

/-- The offset of a zone in minutes. -/
def zoneOffset (zone : Tag.ZoneParts) : Int :=
  let minutes : Int := Json.digitsValue zone.hour * 60 + Json.digitsValue zone.minute
  if zone.negative then -minutes else minutes

/-- An offset from universal time is less than a day. -/
def isOffset (minutes : Int) : Bool := minutes.natAbs < 24 * 60

def timestampValue (text : String) : Except Error Datum :=
  match Tag.timestampParts? (Tag.dropFinalBreak text.toList) with
  | none => faulty .notATimestamp
  | some parts =>
    let number := Json.digitsValue
    let (year, month, day) := (number parts.year, number parts.month, number parts.day)
    if !isDate year month day then faulty .outOfRange
    else
      match parts.clock with
      | none => .ok (.date year month day)
      | some clock =>
        let (hour, minute, second) := (number clock.hour, number clock.minute, number clock.second)
        let offset := parts.zone.map zoneOffset
        if isClock hour minute second && offset.all isOffset then
          .ok (.moment {
            year, month, day, hour, minute, second
            microsecond := microseconds clock.fraction
            offset })
        else faulty .outOfRange

/-- The value of a character of base 64. -/
def base64Value? (c : Char) : Option Nat :=
  let n := c.toNat
  if 65 ≤ n && n ≤ 90 then some (n - 65)
  else if 97 ≤ n && n ≤ 122 then some (n - 71)
  else if 48 ≤ n && n ≤ 57 then some (n + 4)
  else if c = '+' then some 62
  else if c = '/' then some 63
  else none

/-- Reads groups of four characters; `held` are the values of the present group and `padding` counts
its equals signs. Other characters are skipped, and a padded group ends the data. -/
def base64Bytes : List Char → (held : List Nat) → (padding : Nat) → Option (List UInt8)
  | [], held, _ => if held.isEmpty then some [] else none
  | c :: rest, held, padding =>
    if c = '=' then
      if 2 ≤ held.length && 4 ≤ held.length + padding + 1 then some (partialGroup held)
      else base64Bytes rest held (if 2 ≤ held.length then padding + 1 else padding)
    else
      match base64Value? c with
      | none => base64Bytes rest held padding
      | some v =>
        match held with
        | [a, b, d] =>
          let n := ((a * 64 + b) * 64 + d) * 64 + v
          (base64Bytes rest [] 0).map fun bytes =>
            (n / 65536).toUInt8 :: (n / 256 % 256).toUInt8 :: (n % 256).toUInt8 :: bytes
        | held => base64Bytes rest (held ++ [v]) 0
where
  /-- The bytes of a group that padding completes. -/
  partialGroup : List Nat → List UInt8
    | [a, b] => [(a * 4 + b / 16).toUInt8]
    | [a, b, d] => [(a * 4 + b / 16).toUInt8, (b % 16 * 16 + d / 4).toUInt8]
    | _ => []

def binaryValue (text : String) : Except Error Datum :=
  if text.toList.all (·.toNat < 128) then
    match base64Bytes text.toList [] 0 with
    | some bytes => .ok (.bytes bytes)
    | none => .error (.node .base64)
  else .error (.node .base64)

namespace Node

/-! Values without parts -/

mutual

/-- The text of a scalar; of a mapping it is the text of its entry `=`, which leads nowhere if that
is the mapping itself. -/
def text : Node → Except Error String
  | .scalar _ text => .ok text
  | .mapping _ entries => textOf entries
  | .sequence .. => .error (.node .scalarExpected)
  | .enclosing .. => faulty .endless

/-- The text of the first value with the key `=`. -/
def textOf : List (Node × Node) → Except Error String
  | [] => .error (.node .scalarExpected)
  | (key, value) :: rest => if key.tagOf = .value then text value else textOf rest

end

/-- The value of a text under the types whose values are texts, numbers and the like. -/
def scalarValue (tag : Tag) (text : String) : Except Error Datum :=
  match tag with
  | .null => .ok .null
  | .bool => (boolValue text).map .bool
  | .int => (intValue text).map .int
  | .float => (floatValue text).map .float
  | .timestamp => timestampValue text
  | .binary => binaryValue text
  | .str => .ok (.str text)
  | _ => .error (.node .scalarExpected)

/-- Whether values of the type are lists, sets or mappings. -/
def isCollection : Tag → Bool
  | .seq | .map | .set | .orderedMap | .pairs => true
  | _ => false

def isScalarType : Tag → Bool
  | .null | .bool | .int | .float | .timestamp | .binary | .str => true
  | _ => false

/-- The types that a document can name but that no value has. -/
def tagName : Tag → String
  | .other uri => uri
  | .merge => Tag.commonUri ++ "merge"
  | .value => Tag.commonUri ++ "value"
  | _ => Tag.commonUri ++ "yaml"

/-- What a node gives as soon as it is met: its value, or nothing yet if that has parts. -/
def atOnce (node : Node) : Except Error (Option Datum) :=
  match node with
  | .enclosing _ isMapping => .ok (some (.loop isMapping))
  | node =>
    if isCollection node.tagOf then .ok none
    else if isScalarType node.tagOf then do
      let text ← node.text
      if node.tagOf = .timestamp && !node.isScalar then faulty .notText
      else pure (some (← scalarValue node.tagOf text))
    else .error (.node (.unknownTag (tagName node.tagOf)))

/-! Merged mappings -/

/-- A key `=` is an ordinary text. -/
def plainKey : Node → Node
  | .scalar .value text => .scalar .str text
  | .sequence .value items => .sequence .str items
  | .mapping .value entries => .mapping .str entries
  | node => node

mutual

/-- The entries that the merge keys among some entries name, and the other entries. -/
def mergeEntries : List (Node × Node) → Except Error (List (Node × Node) × List (Node × Node))
  | [] => .ok ([], [])
  | (key, value) :: rest => do
    if key.isMergeKey then
      let found ← mergeSource value
      let (merged, own) ← mergeEntries rest
      pure (found ++ merged, own)
    else
      let (merged, own) ← mergeEntries rest
      pure (merged, (key.plainKey, value) :: own)

/-- The entries that a merge key takes from its value: a mapping, or a list of mappings. Of what
the value encloses, too deep for anybody to look at it, one entry is left. -/
def mergeSource : Node → Except Error (List (Node × Node))
  | .mapping _ entries => do
    let (merged, own) ← mergeEntries entries
    pure (merged ++ own)
  | .sequence _ items => mergeItems items
  | .enclosing anchor isMapping => .ok [(.scalar .str anchor, .enclosing anchor isMapping)]
  | .scalar _ _ => .error (.node .mergeSource)

/-- The entries of the mappings in a list, of which the earlier ones stand last so that they win. -/
def mergeItems : List Node → Except Error (List (Node × Node))
  | [] => .ok []
  | .mapping _ entries :: rest => do
    let (merged, own) ← mergeEntries entries
    pure ((← mergeItems rest) ++ (merged ++ own))
  | .enclosing anchor isMapping :: rest => do
    pure ((← mergeItems rest) ++ [(.scalar .str anchor, .enclosing anchor isMapping)])
  | _ :: _ => .error (.node .mergeSource)

end

/-- The entries of a mapping with those that its merge keys name, which come first so that its own
ones win. -/
def flattened (entries : List (Node × Node)) : Except Error (List (Node × Node)) := do
  let (merged, own) ← mergeEntries entries
  pure (merged ++ own)

/-! Faults. The parts of a collection are met after everything that was met before it, so of two
faults in a document the one nearer to the root is reported, and of two at the same depth the
earlier one. The merge keys of a mapping count among its parts. -/

/-- What is met in a collection: a key, another part, or a fault of the collection. -/
inductive Part where
  | key (node : Node)
  | value (node : Node)
  | fault (error : Error)

/-- The parts of a list whose items are mappings of one entry. -/
def pairParts : List Node → List Part
  | [] => []
  | .mapping _ [(key, value)] :: rest => .value key :: .value value :: pairParts rest
  | _ :: _ => [.fault (.node .pairExpected)]

/-- The parts of a collection in the order in which they are met. -/
def parts (node : Node) : List Part :=
  match node.tagOf, node with
  | .seq, .sequence _ items => items.map .value
  | .orderedMap, .sequence _ items | .pairs, .sequence _ items => pairParts items
  | .map, .mapping _ entries | .set, .mapping _ entries =>
    match flattened entries with
    | .ok entries => entries.flatMap fun e => [.key e.1, .value e.2]
    | .error e => [.fault e]
  | .map, _ | .set, _ => [.fault (.node .mappingExpected)]
  | _, _ => [.fault (.node .sequenceExpected)]

/-- Meets parts one after the other; gives the collections among them. -/
def meet : List Part → Except Error (List Node)
  | [] => .ok []
  | .fault e :: _ => .error e
  | .key node :: rest => do
    let _ ← node.atOnce
    if isCollection node.tagOf then throw (.node .unhashableKey)
    meet rest
  | .value node :: rest => do
    match ← node.atOnce with
    | some _ => meet rest
    | none => pure (node :: (← meet rest))

/-- The first fault among parts, or below them to a depth. -/
def firstFault? : (depth : Nat) → List Part → Option Error
  | 0, _ => none
  | _ + 1, [] => none
  | depth + 1, met =>
    match meet met with
    | .error e => some e
    | .ok collections => firstFault? depth (collections.flatMap parts)

/-! Values of trees -/

/-- The value of a tree of some depth that has no fault. -/
def toDatum : (depth : Nat) → Node → Datum
  | 0, _ => .null
  | depth + 1, node =>
    match node.atOnce, node with
    | .ok (some value), _ => value
    | .ok none, .sequence .seq items => .seq (items.map (toDatum depth))
    | .ok none, .sequence _ items => .seq (items.map (pairDatum (toDatum depth)))
    | .ok none, .mapping tag entries =>
      let entries := entriesDatum (toDatum depth) ((flattened entries).toOption.getD [])
      if tag = .set then .set (entries.map Prod.fst) else .map entries
    | _, _ => .null
where
  /-- The value of a mapping of one entry in a list of such. -/
  pairDatum (read : Node → Datum) : Node → Datum
    | .mapping _ [(key, value)] => .seq [read key, read value]
    | _ => .null
  /-- The entries of a mapping; of several with one key the last one counts. -/
  entriesDatum (read : Node → Datum) (entries : List (Node × Node)) : List (Datum × Datum) :=
    entries.foldl (fun known e => Datum.setEntry known (read e.1) (read e.2)) []

mutual

def depth : Node → Nat
  | .scalar _ _ | .enclosing _ _ => 1
  | .sequence _ items => itemsDepth items + 1
  | .mapping _ entries => entriesDepth entries + 1

def itemsDepth : List Node → Nat
  | [] => 0
  | item :: rest => max (depth item) (itemsDepth rest)

def entriesDepth : List (Node × Node) → Nat
  | [] => 0
  | (key, value) :: rest => max (max (depth key) (depth value)) (entriesDepth rest)

end

/-- The value of a tree. -/
def construct (node : Node) : Except Error Datum :=
  match firstFault? (node.depth + 1) [.value node] with
  | some e => .error e
  | none => .ok (toDatum node.depth node)

end Node

/-- Reads the only document of a text; a text without a document is null. -/
def read (text : String) : Except Error Datum := do
  match text.toList.find? (!isReadable ·) with
  | some c => throw (.unreadable c)
  | none =>
    match ← readTree text.toList with
    | some tree => tree.construct
    | none => pure .null

end ScenarioCompiler.Yaml
