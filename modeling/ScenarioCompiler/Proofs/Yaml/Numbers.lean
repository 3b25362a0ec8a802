import Mathlib.Data.List.TakeWhile
import ScenarioCompiler.Proofs.Text
import ScenarioCompiler.Proofs.Yaml.Tokens
import ScenarioCompiler.Yaml.Construct

namespace ScenarioCompiler.Yaml

open Json (ne_of_isDigit)

variable {n : Int} {x : Char}

/-! ### The digits behind the sign -/

theorem dropSign_of_digits {cs : List Char} (h : ∀ x ∈ cs, x.isDigit = true) :
    Tag.dropSign cs = cs := by
  cases cs with
  | nil => rfl
  | cons x cs =>
    have hplus : x ≠ '+' := ne_of_isDigit (h x List.mem_cons_self) rfl
    have hminus : x ≠ '-' := ne_of_isDigit (h x List.mem_cons_self) rfl
    exact Tag.dropSign.eq_3 _ (fun _ he => hplus (List.cons.inj he).1)
      fun _ he => hminus (List.cons.inj he).1

theorem dropSign_digits (n : Int) :
    Tag.dropSign (toString n).toList = Nat.toDigits 10 n.natAbs := by
  rw [toList_toString]
  split
  · rfl
  · exact dropSign_of_digits fun x hx => isDigit_of_mem hx

theorem isDigitOrLine_of_mem (h : x ∈ Nat.toDigits 10 n.natAbs) : Tag.isDigitOrLine x = true := by
  rw [Tag.isDigitOrLine, isDigit_of_mem h, Bool.true_or]

/-! ### The type of a decimal number -/

theorem lookup_boolWords_int (n : Int) : Tag.boolWords.lookup (toString n) = none := by
  have hwords : ∀ entry ∈ Tag.boolWords,
      entry.1.toList.any (fun ch => !(ch.isDigit || ch == '-')) = true := by
    decide
  refine List.lookup_eq_none_iff.2 fun entry he => ?_
  obtain ⟨ch, hch, hno⟩ := List.any_eq_true.1 (hwords entry he)
  rw [bne_iff_ne]
  intro heq
  rcases isDigitOrMinus_int (heq ▸ hch) with h | rfl
  · simp [h] at hno
  · exact absurd hno (by decide)

theorem isFloat_int (n : Int) : Tag.isFloat (toString n).toList = false := by
  have hdrop : (Nat.toDigits 10 n.natAbs).dropWhile Tag.isDigitOrLine = [] :=
    List.dropWhile_eq_nil_iff.2 fun x hx => isDigitOrLine_of_mem hx
  unfold Tag.isFloat
  simp only [dropSign_digits, hdrop]
  simp [Tag.isSexagesimal, Tag.sexagesimalGroups]

theorem isInt_int (n : Int) : Tag.isInt (toString n).toList = true := by
  unfold Tag.isInt
  rw [dropSign_digits]
  by_cases hz : n.natAbs = 0
  · rw [hz]
    rfl
  obtain ⟨d, digits, hd, hne⟩ := Json.toDigits_head hz
  have hmem : ∀ y ∈ d :: digits, y ∈ Nat.toDigits 10 n.natAbs := fun y hy => hd ▸ hy
  have hdigit : d.isDigit = true := isDigit_of_mem (hmem d List.mem_cons_self)
  have hall : digits.all Tag.isDigitOrLine = true :=
    List.all_eq_true.2 fun y hy => isDigitOrLine_of_mem (hmem y (List.mem_cons_of_mem _ hy))
  rw [hd]
  split
  -- the other bases begin with a zero
  iterate 3 exact absurd (List.cons.inj ‹d :: digits = _›).1 hne
  · obtain ⟨rfl, rfl⟩ := List.cons.inj ‹d :: digits = _›
    rw [hdigit, hall, Bool.true_and, Bool.true_or]
  · exact absurd ‹d :: digits = []› (List.cons_ne_nil _ _)

theorem ofPlain_int (n : Int) : Tag.ofPlain (toString n) = .int := by
  simp only [Tag.ofPlain, lookup_boolWords_int, isFloat_int, isInt_int, Option.isSome_none,
    Bool.false_eq_true, if_false, if_true]

/-! ### The value of a decimal number -/

theorem hexValue?_digit (h : x.isDigit = true) :
    Json.hexValue? x = some (x.toNat - 48) ∧ x.toNat - 48 < 10 := by
  obtain ⟨hl, hu⟩ := toNat_of_isDigit h
  exact ⟨by simp [Json.hexValue?, hl, hu], by omega⟩

theorem digitsIn_ten {cs : List Char} (hn : cs ≠ []) (h : ∀ x ∈ cs, x.isDigit = true) :
    digitsIn 10 cs = .ok (Json.digitsValue cs) := by
  have hfold (m : Nat) : cs.foldlM (fun n c => do
      let d ← Json.hexValue? c
      if d < 10 then some (n * 10 + d) else none) m =
        some (cs.foldl (fun n c => n * 10 + (c.toNat - 48)) m) := by
    clear hn
    induction cs generalizing m with
    | nil => rfl
    | cons ch cs ih =>
      obtain ⟨hv, hlt⟩ := hexValue?_digit (h ch List.mem_cons_self)
      rw [List.foldlM_cons, hv, List.foldl_cons, ← ih fun x hx => h x (List.mem_cons_of_mem _ hx)]
      simp [hlt]
  rw [digitsIn, if_neg (by simpa using hn), hfold]
  rfl

theorem numeral_digit (h : x.isDigit = true) : Text.numeral x = x := by
  obtain ⟨hl, hu⟩ := toNat_of_isDigit h
  rw [Text.numeral, if_pos (by omega)]

theorem numerals_digits {cs : List Char} (h : ∀ x ∈ cs, x.isDigit = true) :
    Text.numerals cs = cs := by
  have hmap : cs.map Text.numeral = cs.map id :=
    List.map_congr_left fun x hx => numeral_digit (h x hx)
  rw [Text.numerals, hmap, List.map_id]
  refine Text.trimBoth_of_forall fun x hx => ?_
  obtain ⟨hl, hu⟩ := toNat_of_isDigit (h x hx)
  have hne : x ≠ ' ' := ne_of_isDigit (h x hx) rfl
  simp only [Text.isNumberSpace, hne, decide_false, Bool.or_false, Bool.and_eq_false_iff,
    decide_eq_false_iff_not]
  omega

/-- Digits have no sign. -/
theorem isNegative_digits {cs : List Char} (h : ∀ x ∈ cs, x.isDigit = true) :
    isNegative cs = false := by
  cases cs with
  | nil => rfl
  | cons x cs =>
    have hne : x ≠ '-' := ne_of_isDigit (h x List.mem_cons_self) rfl
    simp [isNegative, hne]

theorem integerIn_digits (h : n.natAbs < 10 ^ Json.digitLimit) :
    integerIn 10 (Nat.toDigits 10 n.natAbs) = .ok (n.natAbs : Int) := by
  have hdigit : ∀ x ∈ Nat.toDigits 10 n.natAbs, x.isDigit = true := fun x hx => isDigit_of_mem hx
  have hlength : ¬ Json.digitLimit < (Nat.toDigits 10 n.natAbs).length :=
    Nat.not_lt.2 ((Nat.length_toDigits_le_iff (by decide) (by decide)).2 h)
  have hbase : dropBase 10 (Nat.toDigits 10 n.natAbs) = Nat.toDigits 10 n.natAbs := rfl
  unfold integerIn
  simp only [numerals_digits hdigit, dropSign_of_digits hdigit, hbase, hlength, decide_true,
    decide_false, Bool.and_false, Bool.false_eq_true, if_false,
    digitsIn_ten Nat.toDigits_ne_nil hdigit, Json.digitsValue_toDigits, isNegative_digits hdigit]
  rfl

theorem withoutLines_int (n : Int) : withoutLines (toString n) = (toString n).toList := by
  refine List.filter_eq_self.2 fun x hx => ?_
  rw [bne_iff_ne]
  rintro rfl
  exact absurd (isDigitOrMinus_int hx) (by decide)

theorem isNegative_int (n : Int) : isNegative (toString n).toList = decide (n < 0) := by
  rw [toList_toString]
  split
  · exact (decide_eq_true ‹_›).symm
  · rw [List.nil_append, isNegative_digits fun x hx => isDigit_of_mem hx]
    exact (decide_eq_false ‹_›).symm

/-- A decimal number is read as its value; the digits are few enough. -/
theorem intValue_int (h : n.natAbs < 10 ^ Json.digitLimit) : intValue (toString n) = .ok n := by
  have hsign : (if isNegative (toString n).toList = true then -(n.natAbs : Int) else n.natAbs) =
      n := by
    simp only [isNegative_int, decide_eq_true_eq]
    split <;> omega
  unfold intValue
  simp only [withoutLines_int, dropSign_digits]
  by_cases hz : n.natAbs = 0
  · rw [hz] at hsign
    rw [hz, Nat.toDigits_zero]
    exact congrArg Except.ok hsign
  obtain ⟨d, digits, hd, hne⟩ := Json.toDigits_head hz
  have hcolon : (Nat.toDigits 10 n.natAbs).contains ':' = false := by
    simp only [List.contains_eq_mem, decide_eq_false_iff_not]
    exact fun hm => absurd (isDigit_of_mem hm) (by decide)
  have hvalue := integerIn_digits h
  rw [hd] at hcolon hvalue ⊢
  split
  · exact absurd ‹d :: digits = []› (List.cons_ne_nil _ _)
  -- the other bases begin with a zero
  iterate 4 exact absurd (List.cons.inj ‹d :: digits = _›).1 hne
  · rw [hcolon, if_neg Bool.false_ne_true, hvalue]
    exact congrArg Except.ok hsign

end ScenarioCompiler.Yaml
