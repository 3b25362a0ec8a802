import ScenarioCompiler.Json.Basic

namespace ScenarioCompiler.Json

/-- The value of a field of an object. -/
def field? (document : Json) (name : String) : Option Json :=
  match document with
  | .obj fields => Table.get? fields name
  | _ => none

def items? : Json → Option (List Json)
  | .arr items => some items
  | _ => none

def text? : Json → Option String
  | .str s => some s
  | _ => none

/-- The text that a field holds. -/
def textField? (document : Json) (name : String) : Option String :=
  (document.field? name).bind text?

@[simp] theorem field?_obj (fields : List (String × Json)) (name : String) :
    (obj fields).field? name = Table.get? fields name := rfl

@[simp] theorem items?_arr (items : List Json) : (arr items).items? = some items := rfl

@[simp] theorem text?_str (s : String) : (str s).text? = some s := rfl

mutual

/-- No value in a document is null. -/
def NoNull : Json → Prop
  | .null => False
  | .arr items => NoNullItems items
  | .obj fields => NoNullFields fields
  | .bool _ | .int _ | .float _ | .str _ => True

def NoNullItems : List Json → Prop
  | [] => True
  | item :: rest => NoNull item ∧ NoNullItems rest

def NoNullFields : List (String × Json) → Prop
  | [] => True
  | (_, value) :: rest => NoNull value ∧ NoNullFields rest

end

theorem noNull_arr {items : List Json} : (arr items).NoNull ↔ ∀ item ∈ items, item.NoNull := by
  rw [NoNull]
  induction items with
  | nil => simp [NoNullItems]
  | cons item rest ih => rw [NoNullItems, ih, List.forall_mem_cons]

theorem noNull_obj {fields : List (String × Json)} :
    (obj fields).NoNull ↔ ∀ field ∈ fields, field.2.NoNull := by
  rw [NoNull]
  induction fields with
  | nil => simp [NoNullFields]
  | cons field rest ih => rw [NoNullFields, ih, List.forall_mem_cons]

@[simp] theorem noNull_str (s : String) : (str s).NoNull := by
  simp [NoNull]

@[simp] theorem noNull_int (n : Int) : (int n).NoNull := by
  simp [NoNull]

end ScenarioCompiler.Json
