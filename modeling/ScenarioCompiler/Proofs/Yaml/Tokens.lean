import ScenarioCompiler.Proofs.Json.Scalar
import ScenarioCompiler.Proofs.Yaml.Written
import ScenarioCompiler.Yaml.Token

namespace ScenarioCompiler.Yaml

open Writer

variable {value : Json} {cs : List Char} {p : Place} {indent column : Nat}

/-! ### Scalars -/

/-- A value that is written as one word or text; floats are left out. -/
def IsScalar : Json → Prop
  | .null | .bool _ | .int _ | .str _ => True
  | .float _ | .arr _ | .obj _ => False

/-- The text that stands for a value. -/
def spelling : Json → String
  | .null => "null"
  | .bool b => if b then "true" else "false"
  | .int n => toString n
  | .str text => text
  | .float _ | .arr _ | .obj _ => ""

def spellingStyle : Json → Style
  | .str text => styleOf false text
  | _ => .plain

theorem plainChars_word (h : ' ' ∉ cs) (column : Nat) :
    plainChars p column false cs = cs := by
  induction cs generalizing column with
  | nil => rfl
  | cons ch cs ih =>
    have hs : ch ≠ ' ' := fun he => h (he ▸ List.mem_cons_self)
    rw [Plain.plainChars_cons_word hs, ih fun hm => h (List.mem_cons_of_mem _ hm)]

/-- The decimal digits of a number behind its sign. -/
theorem toList_toString (n : Int) :
    (toString n).toList = (if n < 0 then ['-'] else []) ++ Nat.toDigits 10 n.natAbs := by
  cases n with
  | ofNat n => exact Json.intChars_ofNat n
  | negSucc n =>
    rw [if_pos (Int.negSucc_lt_zero n)]
    exact Json.intChars_negSucc n

theorem toNat_of_isDigit {ch : Char} (h : ch.isDigit = true) : 48 ≤ ch.toNat ∧ ch.toNat ≤ 57 := by
  simp only [Char.isDigit, Bool.and_eq_true, decide_eq_true_eq] at h
  exact h

theorem isInline_of_isDigit {ch : Char} (h : ch.isDigit = true) : IsInline ch := by
  obtain ⟨hl, hu⟩ := toNat_of_isDigit h
  exact ⟨by omega, by omega⟩

theorem continuesPlain_word (h : ∀ x ∈ cs, x ∉ ['\n', ':', '#', ' ']) :
    continuesPlain false cs = true := by
  induction cs with
  | nil => rfl
  | cons ch cs ih =>
    have hch := h ch List.mem_cons_self
    simp only [List.mem_cons, List.not_mem_nil, or_false, not_or] at hch
    obtain ⟨hn, hcolon, hmark, hs⟩ := hch
    simp [continuesPlain, hn, hcolon, hs, ih fun x hx => h x (List.mem_cons_of_mem _ hx)]

theorem allowsPlain_word (hi : ∀ x ∈ cs, IsInline x) (h : ∀ x ∈ cs, x ∉ [':', '#', ' '])
    (hb : beginsPlain cs = true) : allowsPlain cs = true := by
  simp only [allowsPlain, Bool.and_eq_true, List.all_eq_true]
  refine ⟨⟨fun x hx => ?_, hb⟩, continuesPlain_word fun x hx hm => ?_⟩
  · have := hi x hx
    simp [isOrdinary, this.1, this.2]
  · rcases List.mem_cons.1 hm with rfl | hm
    · exact absurd (hi _ hx) (by decide)
    · exact h x hx hm

theorem isDigit_of_mem {n : Int} {x : Char} (h : x ∈ Nat.toDigits 10 n.natAbs) :
    x.isDigit = true := Nat.isDigit_of_mem_toDigits (by decide) (by decide) h

theorem isDigitOrMinus_int {n : Int} {x : Char} (h : x ∈ (toString n).toList) :
    x.isDigit = true ∨ x = '-' := by
  rw [toList_toString, List.mem_append] at h
  rcases h with h | h
  · split at h
    · exact .inr (List.mem_singleton.1 h)
    · exact absurd h List.not_mem_nil
  · exact .inl (isDigit_of_mem h)

theorem isWord_int (n : Int) :
    ∀ x ∈ (toString n).toList, IsInline x ∧ x ∉ [':', '#', ' '] := by
  intro x hx
  rcases isDigitOrMinus_int hx with hd | rfl
  · have hwords : ∀ y ∈ [':', '#', ' '], y.isDigit = false := forall_mem_of_all (by decide)
    exact ⟨isInline_of_isDigit hd, fun hm => Bool.noConfusion (hd.symm.trans (hwords x hm))⟩
  · decide

theorem allowsPlain_int (n : Int) : allowsPlain (toString n).toList = true := by
  obtain ⟨d, digits, hd, hdigit⟩ := Json.exists_cons_toDigits n.natAbs
  have hsigns : ∀ x ∈ "#,[]\x7b\x7d&*!|>'\"%@` \n-?:.".toList, x.isDigit = false :=
    forall_mem_of_all (by decide)
  have hne : d ∉ "#,[]\x7b\x7d&*!|>'\"%@` \n-?:.".toList :=
    fun hm => Bool.noConfusion (hdigit.symm.trans (hsigns d hm))
  simp only [String.reduceToList, List.mem_cons, List.not_mem_nil, or_false, not_or] at hne
  have hmark : '-' ≠ d ∧ '.' ≠ d := by
    constructor <;>
    · rintro rfl
      exact Bool.noConfusion hdigit
  have hblank : isBlankOrEnd (some d) = false := by
    refine Bool.eq_false_iff.2 fun hb => ?_
    rw [(isBlankOrEnd_iff (isInline_of_isDigit hdigit)).1 hb] at hdigit
    exact Bool.noConfusion hdigit
  refine allowsPlain_word (fun x hx => (isWord_int n x hx).1) (fun x hx => (isWord_int n x hx).2) ?_
  rw [toList_toString, hd]
  split
  · simp [beginsPlain, hblank, hmark.1, List.isPrefixOf_cons_cons]
  · simp [beginsPlain, hne, hmark.1, hmark.2, List.isPrefixOf_cons_cons]

theorem scalarChars_eq (h : IsScalar value) : scalarChars indent column value =
    textChars (spellingStyle value) ⟨indent, true⟩ column (spelling value).toList := by
  cases value with
  | null => exact (plainChars_word (show ' ' ∉ "null".toList by decide) column).symm
  | bool b =>
    cases b with
    | false => exact (plainChars_word (show ' ' ∉ "false".toList by decide) column).symm
    | true => exact (plainChars_word (show ' ' ∉ "true".toList by decide) column).symm
  | int n =>
    exact (plainChars_word (fun hm => (isWord_int n ' ' hm).2 (by decide)) column).symm
  | str text => rfl
  | float _ | arr _ | obj _ => exact h.elim

theorem suits_spelling (h : IsScalar value) :
    Suits (spellingStyle value) (spelling value).toList := by
  cases value with
  | null => exact (by decide : allowsPlain "null".toList = true)
  | bool b =>
    cases b with
    | false => exact (by decide : allowsPlain "false".toList = true)
    | true => exact (by decide : allowsPlain "true".toList = true)
  | int n => exact allowsPlain_int n
  | str text => exact suits_styleOf false text
  | float _ | arr _ | obj _ => exact h.elim

/-- The token of a scalar. -/
def textToken (isKey : Bool) (text : String) : Token := .scalar text (styleOf isKey text = .plain)

def scalarToken (value : Json) : Token := .scalar (spelling value) (spellingStyle value = .plain)

/-! ### Tokens -/

mutual

/-- The tokens of a value. A list may stand at the indentation of its key, without tokens for its
start and its end. -/
def nodeTokens : (indentless : Bool) → Json → List Token
  | indentless, .arr items =>
    if items.isEmpty then [.flowSequenceStart, .flowSequenceEnd]
    else if indentless then itemsTokens items
    else .blockSequenceStart :: itemsTokens items ++ [.blockEnd]
  | _, .obj fields =>
    if fields.isEmpty then [.flowMappingStart, .flowMappingEnd]
    else .blockMappingStart :: fieldsTokens fields ++ [.blockEnd]
  | _, value => [scalarToken value]

def itemsTokens : List Json → List Token
  | [] => []
  | item :: rest => .blockEntry :: nodeTokens false item ++ itemsTokens rest

def fieldsTokens : List (String × Json) → List Token
  | [] => []
  | (key, value) :: rest =>
    .key :: textToken (isSimpleKey key) key :: .value :: nodeTokens (isSimpleKey key) value ++
      fieldsTokens rest

end

theorem nodeTokens_scalar (h : IsScalar value) (indentless : Bool) :
    nodeTokens indentless value = [scalarToken value] := by
  match value with
  | .null | .bool _ | .int _ | .str _ => rfl

theorem nodeTokens_arr {items : List Json} (hn : items ≠ []) (indentless : Bool) :
    nodeTokens indentless (.arr items) =
      if indentless then itemsTokens items
      else .blockSequenceStart :: itemsTokens items ++ [.blockEnd] := by
  cases items with
  | nil => exact absurd rfl hn
  | cons item items => rfl

theorem nodeTokens_obj {fields : List (String × Json)} (hn : fields ≠ []) (indentless : Bool) :
    nodeTokens indentless (.obj fields) =
      .blockMappingStart :: fieldsTokens fields ++ [.blockEnd] := by
  cases fields with
  | nil => exact absurd rfl hn
  | cons field fields => rfl

theorem valueChars_scalar (h : IsScalar value) :
    valueChars indent column value = ' ' :: scalarChars (indent + 2) (column + 1) value := by
  match value with
  | .null | .bool _ | .int _ | .str _ => rfl

theorem nestedChars_scalar (h : IsScalar value) :
    nestedChars indent value = scalarChars (indent + 2) (indent + 2) value := by
  match value with
  | .null | .bool _ | .int _ | .str _ => rfl

/-! ### There are no more tokens than four to a character -/

mutual

theorem length_valueTokens (indent column : Nat) : ∀ value : Json,
    (nodeTokens true value).length ≤ 4 * (valueChars indent column value).length
  | .null | .bool _ | .int _ | .float _ | .str _ => by
    simp only [nodeTokens, valueChars, List.length_cons, List.length_nil]
    omega
  | .arr items => by
    have := length_itemsTokens indent true items
    rw [nodeTokens, valueChars]
    split
    · decide
    · rw [if_pos rfl, List.length_append]
      omega
  | .obj fields => by
    have := length_fieldsTokens (indent + 2) true fields
    rw [nodeTokens, valueChars]
    split
    · decide
    · simp only [newLine, List.length_append, List.length_cons, List.length_nil]
      omega

theorem length_nestedTokens (indent : Nat) : ∀ value : Json,
    (nodeTokens false value).length ≤ 4 * (nestedChars indent value).length + 4
  | .null | .bool _ | .int _ | .float _ | .str _ => by simp [nodeTokens]
  | .arr items => by
    have := length_itemsTokens (indent + 2) true items
    rw [nodeTokens, nestedChars]
    split
    · decide
    · simp only [Bool.false_eq_true, if_false, List.length_append, List.length_cons,
        List.length_nil]
      omega
  | .obj fields => by
    have := length_fieldsTokens (indent + 2) true fields
    rw [nodeTokens, nestedChars]
    split
    · decide
    · simp only [List.length_append, List.length_cons, List.length_nil]
      omega

theorem length_itemsTokens (indent : Nat) : ∀ (isFirst : Bool) (items : List Json),
    (itemsTokens items).length ≤ 4 * (itemsChars indent isFirst items).length
  | _, [] => by simp [itemsTokens]
  | isFirst, item :: rest => by
    have := length_nestedTokens indent item
    have := length_itemsTokens indent false rest
    simp only [itemsTokens, itemsChars, List.length_append, List.length_cons]
    omega

theorem length_fieldsTokens (indent : Nat) : ∀ (isFirst : Bool) (fields : List (String × Json)),
    (fieldsTokens fields).length ≤ 4 * (fieldsChars indent isFirst fields).length
  | _, [] => by simp [fieldsTokens]
  | isFirst, (key, value) :: rest => by
    have := length_fieldsTokens indent false rest
    rw [fieldsTokens, fieldsChars]
    cases hs : isSimpleKey key with
    | true =>
      have := length_valueTokens indent (indent + (simpleKeyChars indent key).length + 1) value
      simp only [if_true, List.length_append, List.length_cons]
      omega
    | false =>
      have := length_nestedTokens indent value
      simp only [Bool.false_eq_true, if_false, List.length_append, List.length_cons]
      omega

end

end ScenarioCompiler.Yaml
