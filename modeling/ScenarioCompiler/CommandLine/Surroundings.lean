import ScenarioCompiler.Bindings
import ScenarioCompiler.Text.Quoted

namespace ScenarioCompiler.CommandLine

/-- The pieces of a block of bytes between its zero bytes. -/
def splitAtZeros : List UInt8 → List (List UInt8)
  | [] => [[]]
  | b :: rest =>
    if b = 0 then [] :: splitAtZeros rest
    else match splitAtZeros rest with
      | [] => [[b]]
      | piece :: pieces => (b :: piece) :: pieces

/-- A variable from the text of its name and value. -/
def entryOf? (bytes : List UInt8) : Option (String × String) :=
  match String.fromUTF8? ⟨bytes.toArray⟩ with
  | none => none
  | some text =>
    match text.toList.span (· ≠ '=') with
    | (name, _ :: value) => some (String.ofList name, String.ofList value)
    | (_, []) => none

/-- The variables of an environment from its block of bytes; those that are no text are left out. -/
def environmentOf (block : ByteArray) : Bindings :=
  .ofEntries ((splitAtZeros block.data.toList).filterMap entryOf?)

/-- A byte at some place of a random id: two places tell how the id was made. -/
def markedByte (position : Nat) (b : UInt8) : UInt8 :=
  if position = 6 then b % 16 + 64 else if position = 8 then b % 64 + 128 else b

/-- A random id from sixteen random bytes, in hexadecimal digits with dashes between its groups. -/
def randomId (bytes : List UInt8) : String :=
  let pieces := bytes.mapIdx fun i b =>
    (if [4, 6, 8, 10].contains i then ['-'] else []) ++ Text.hexDigits 2 (markedByte i b).toNat
  String.ofList pieces.flatten

end ScenarioCompiler.CommandLine
