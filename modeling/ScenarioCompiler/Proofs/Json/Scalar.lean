import Mathlib.Algebra.Group.Int.Defs
import Mathlib.Algebra.Group.Nat.Defs
import ScenarioCompiler.Json.Reader
import ScenarioCompiler.Json.Writer

namespace ScenarioCompiler.Json

variable {c : Char} {cs rest blanks : List Char} {fuel n : Nat}

/-! ### White space -/

theorem skipSpace_append (h : ∀ c ∈ blanks, isSpace c = true) :
    skipSpace (blanks ++ rest) = skipSpace rest :=
  List.dropWhile_append_of_pos h

theorem skipSpace_cons (h : isSpace c = false) : skipSpace (c :: rest) = c :: rest := by
  simp [skipSpace, h]

/-! ### Texts -/

theorem hexValue?_hexDigit : ∀ n < 16, hexValue? (Text.hexDigit n) = some n := by
  decide

theorem readUnit_hexDigits (h : n < 0x10000) :
    readUnit (Text.hexDigits 4 n ++ rest) = some (n, rest) := by
  have hd (m : Nat) : hexValue? (Text.hexDigit (m % 16)) = some (m % 16) :=
    hexValue?_hexDigit _ (Nat.mod_lt _ (by decide))
  have hn : ((n / 16 / 16 / 16 % 16 * 16 + n / 16 / 16 % 16) * 16 + n / 16 % 16) * 16 + n % 16 =
      n := by
    omega
  simp only [Text.hexDigits, List.nil_append, List.cons_append, readUnit, hd, Option.bind_eq_bind,
    Option.bind_some, hn]
  rfl

/-- No character is a surrogate. -/
theorem toNat_valid (c : Char) : c.toNat < 0xD800 ∨ (0xE000 ≤ c.toNat ∧ c.toNat < 0x110000) := by
  have h := c.valid
  unfold UInt32.isValidChar Nat.isValidChar at h
  simp only [Char.toNat]
  omega

theorem readUnicode_basic (h : c.toNat < 0x10000) :
    readUnicode (Text.hexDigits 4 c.toNat ++ rest) = some (c, rest) := by
  have hv := toNat_valid c
  have hhigh : ¬ (0xD800 ≤ c.toNat ∧ c.toNat < 0xDC00) := by omega
  have hlow : ¬ (0xDC00 ≤ c.toNat ∧ c.toNat < 0xE000) := by omega
  simp [readUnicode, readUnit_hexDigits h, hhigh, hlow]

theorem readUnicode_pair {high low : Nat} (hhigh : 0xD800 ≤ high ∧ high < 0xDC00)
    (hlow : 0xDC00 ≤ low ∧ low < 0xE000) :
    readUnicode (Text.hexDigits 4 high ++ (unitEscape low ++ rest)) =
      some (joinUnits high low, rest) := by
  have hsecond : readUnit (Text.hexDigits 4 low ++ rest) = some (low, rest) :=
    readUnit_hexDigits (by omega)
  rw [readUnicode, readUnit_hexDigits (by omega)]
  simp [unitEscape, hsecond, hhigh, hlow]

theorem readUnicode_beyond (h : 0x10000 ≤ c.toNat) :
    readUnicode (Text.hexDigits 4 (0xD800 + (c.toNat - 0x10000) / 0x400) ++
      (unitEscape (0xDC00 + (c.toNat - 0x10000) % 0x400) ++ rest)) = some (c, rest) := by
  have hv := toNat_valid c
  have hn : 0x10000 + (0xD800 + (c.toNat - 0x10000) / 0x400 - 0xD800) * 0x400 +
      (0xDC00 + (c.toNat - 0x10000) % 0x400 - 0xDC00) = c.toNat := by
    omega
  rw [readUnicode_pair, joinUnits, hn, Char.ofNat_toNat]
  · omega
  · omega

theorem readString_unicode (h : readUnicode cs = some (c, rest)) :
    readString (fuel + 1) ('\\' :: 'u' :: cs) =
      (readString fuel rest).map fun r => (c :: r.1, r.2) := by
  rw [readString, h]
  change (readString fuel rest).bind _ = _
  cases readString fuel rest <;> rfl

theorem readString_simple {e : Char} (hu : e ≠ 'u') (he : simpleEscape? e = some c) :
    readString (fuel + 1) ('\\' :: e :: rest) =
      (readString fuel rest).map fun r => (c :: r.1, r.2) := by
  rw [readString, he]
  · cases readString fuel rest <;> rfl
  · exact hu

theorem readString_plain (hq : c ≠ '"') (hb : c ≠ '\\') (h : 32 ≤ c.toNat) :
    readString (fuel + 1) (c :: rest) = (readString fuel rest).map fun r => (c :: r.1, r.2) := by
  rw [readString, if_neg (by simp [hb, h])]
  · cases readString fuel rest <;> rfl
  · exact hq
  · exact fun _ h _ => hb h
  · exact fun _ _ h _ => hb h

/-- The escape of a character is read as the character. -/
theorem readString_escapedChar (c : Char) : readString (fuel + 1) (escapedChar c ++ rest) =
    (readString fuel rest).map fun r => (c :: r.1, r.2) := by
  unfold escapedChar
  -- the seven characters that have an escape of two characters
  iterate 7
    split
    · subst_vars
      exact readString_simple (by decide) rfl
  rename_i hq hb _ _ _ _ _
  split
  · rename_i h
    exact readString_plain hq hb (by simp at h; exact h.1)
  split
  · exact readString_unicode (readUnicode_basic ‹_›)
  · rename_i h
    rw [List.append_assoc]
    exact readString_unicode (readUnicode_beyond (Nat.le_of_not_lt h))

theorem readString_escaped (h : cs.length < fuel) :
    readString fuel (cs.flatMap escapedChar ++ '"' :: rest) = some (cs, rest) := by
  induction cs generalizing fuel with
  | nil =>
    obtain ⟨fuel, rfl⟩ := Nat.exists_eq_succ_of_ne_zero (Nat.ne_zero_of_lt h)
    rfl
  | cons c cs ih =>
    obtain ⟨fuel, rfl⟩ := Nat.exists_eq_succ_of_ne_zero (Nat.ne_zero_of_lt h)
    rw [List.flatMap_cons, List.append_assoc, readString_escapedChar, ih (by simpa using h)]
    rfl

theorem length_le_escaped (cs : List Char) : cs.length ≤ (cs.flatMap escapedChar).length := by
  have hc (c : Char) : 1 ≤ (escapedChar c).length := by
    unfold escapedChar
    repeat' split
    all_goals simp [unitEscape]
  induction cs with
  | nil => exact Nat.zero_le _
  | cons c cs ih =>
    rw [List.flatMap_cons, List.length_append, List.length_cons]
    have := hc c
    omega

/-! ### Numbers -/

/-- A text that does not go on with a number. -/
def EndsNumber (rest : List Char) : Prop :=
  ∀ c ∈ rest.head?, c.isDigit = false ∧ c ≠ '.' ∧ c ≠ 'e' ∧ c ≠ 'E'

theorem digitsValue_toDigits (n : Nat) : digitsValue (Nat.toDigits 10 n) = n := by
  have h : digitsValue (Nat.toDigits 10 n) = Nat.ofDigitChars 10 (Nat.toDigits 10 n) 0 := by
    rw [Nat.ofDigitChars_eq_foldl, digitsValue]
    simp only [Nat.mul_comm]
    rfl
  rw [h, Nat.ofDigitChars_ten_toDigits]

/-- Only zero begins with a zero. -/
theorem toDigits_head (h : n ≠ 0) : ∃ c rest, Nat.toDigits 10 n = c :: rest ∧ c ≠ '0' := by
  induction n using Nat.strongRecOn with
  | ind n ih =>
    by_cases hn : n < 10
    · refine ⟨_, _, Nat.toDigits_of_lt_base hn, ?_⟩
      have hd : ∀ k < 10, k ≠ 0 → k.digitChar ≠ '0' := by decide
      exact hd n hn h
    · obtain ⟨c, rest, hr, hc⟩ := ih (n / 10) (by omega) (by omega)
      rw [Nat.toDigits_of_base_le (by decide) (by omega), hr]
      exact ⟨_, _, rfl, hc⟩

theorem takeWhile_toDigits (h : EndsNumber rest) :
    (Nat.toDigits 10 n ++ rest).takeWhile Char.isDigit = Nat.toDigits 10 n ∧
      (Nat.toDigits 10 n ++ rest).dropWhile Char.isDigit = rest := by
  have hd : ∀ c ∈ Nat.toDigits 10 n, c.isDigit = true :=
    fun c hc => Nat.isDigit_of_mem_toDigits (by decide) (by decide) hc
  rw [List.takeWhile_append_of_pos hd, List.dropWhile_append_of_pos hd]
  cases rest with
  | nil => simp
  | cons c rest => simp [(h c rfl).1]

theorem readFraction_of_ends (h : EndsNumber rest) : readFraction rest = ([], rest) := by
  unfold readFraction
  split
  · exact absurd rfl (h '.' rfl).2.1
  · rfl

theorem readExponent_of_ends (h : EndsNumber rest) : readExponent rest = (none, rest) := by
  cases rest with
  | nil => rfl
  | cons c rest => simp [readExponent, (h c rfl).2.2]

theorem readNumber_toDigits (negative : Bool) (hn : n < 10 ^ digitLimit) (h : EndsNumber rest) :
    readNumber negative (Nat.toDigits 10 n ++ rest) =
      some (.int (if negative then -n else n), rest) := by
  have hlength : ¬ digitLimit < (Nat.toDigits 10 n).length :=
    Nat.not_lt.2 ((Nat.length_toDigits_le_iff (by decide) (by decide)).2 hn)
  unfold readNumber
  split
  rename_i whole more hwhole
  have hw : whole = Nat.toDigits 10 n ∧ more = rest := by
    -- behind a leading zero the reader takes no more digits, and only zero has one
    split at hwhole
    · rename_i tail heq
      by_cases hz : n = 0
      · subst hz
        rw [Nat.toDigits_zero, List.singleton_append] at heq
        cases hwhole
        exact ⟨(Nat.toDigits_zero 10).symm, (List.cons.inj heq).2.symm⟩
      · obtain ⟨c, digits, hd, hc⟩ := toDigits_head hz
        rw [hd, List.cons_append] at heq
        exact absurd (List.cons.inj heq).1 hc
    · cases hwhole
      exact takeWhile_toDigits h
  obtain ⟨rfl, rfl⟩ := hw
  simp only [readFraction_of_ends h, readExponent_of_ends h]
  simp [hlength, digitsValue_toDigits, Nat.toDigits_ne_nil]

/-! ### Scalars -/

theorem readScalar_str (s : String) (h : s.toList.length < fuel) :
    readScalar fuel (stringChars s ++ rest) = some (.str s, rest) := by
  simp [readScalar, stringChars, readString_escaped h]

theorem readScalar_null : readScalar fuel ("null".toList ++ rest) = some (.null, rest) := rfl

theorem readScalar_bool (b : Bool) :
    readScalar fuel ((if b then "true" else "false").toList ++ rest) = some (.bool b, rest) := by
  cases b <;> rfl

theorem ne_of_isDigit {d : Char} (h : c.isDigit = true) (hd : d.isDigit = false) : c ≠ d := by
  rintro rfl
  exact absurd (h.symm.trans hd) (by decide)

/-- No word begins with a digit. -/
theorem readScalar_digit (h : c.isDigit = true) :
    readScalar fuel (c :: cs) = readNumber false (c :: cs) := by
  have hd {d : Char} (hd : d.isDigit = false) : d ≠ c := (ne_of_isDigit h hd).symm
  have hw : readWord (c :: cs) = none := by
    simp [readWord, words, hd (d := 'n') rfl, hd (d := 't') rfl, hd (d := 'f') rfl,
      hd (d := 'N') rfl, hd (d := 'I') rfl, hd (d := '-') rfl]
  unfold readScalar
  split
  · rename_i heq
    exact absurd (List.cons.inj heq).1 (ne_of_isDigit h rfl)
  · rw [hw]
    split
    · rename_i heq
      exact absurd heq.symm (by simp)
    · split
      · rename_i heq
        exact absurd (List.cons.inj heq).1 (ne_of_isDigit h rfl)
      · rfl

/-- No word begins with a minus and a digit. -/
theorem readScalar_minus (h : c.isDigit = true) :
    readScalar fuel ('-' :: c :: cs) = readNumber true (c :: cs) := by
  have hw : readWord ('-' :: c :: cs) = none := by
    simp [readWord, words, (ne_of_isDigit h (d := 'I') rfl).symm]
  simp [readScalar, hw]

theorem intChars_ofNat (n : Nat) : intChars (.ofNat n) = Nat.toDigits 10 n :=
  Nat.toList_repr

theorem intChars_negSucc (n : Nat) : intChars (.negSucc n) = '-' :: Nat.toDigits 10 (n + 1) := by
  change ("-" ++ (n + 1).repr).toList = _
  rw [String.toList_append, Nat.toList_repr]
  rfl

theorem exists_cons_toDigits (n : Nat) :
    ∃ c digits, Nat.toDigits 10 n = c :: digits ∧ c.isDigit = true := by
  obtain ⟨c, digits, hd⟩ := List.exists_cons_of_ne_nil (Nat.toDigits_ne_nil (n := n) (b := 10))
  have hc : c ∈ Nat.toDigits 10 n := hd ▸ List.mem_cons_self
  exact ⟨c, digits, hd, Nat.isDigit_of_mem_toDigits (by decide) (by decide) hc⟩

theorem readScalar_int {k : Int} (hk : k.natAbs < 10 ^ digitLimit) (h : EndsNumber rest) :
    readScalar fuel (intChars k ++ rest) = some (.int k, rest) := by
  cases k with
  | ofNat n =>
    obtain ⟨c, digits, hd, hc⟩ := exists_cons_toDigits n
    have hn := readNumber_toDigits (n := n) false hk h
    rw [hd, List.cons_append] at hn
    rw [intChars_ofNat, hd, List.cons_append, readScalar_digit hc, hn]
    rfl
  | negSucc n =>
    obtain ⟨c, digits, hd, hc⟩ := exists_cons_toDigits (n + 1)
    have hn := readNumber_toDigits (n := n + 1) true hk h
    rw [hd, List.cons_append] at hn
    rw [intChars_negSucc, hd, List.cons_append, List.cons_append, readScalar_minus hc, hn]
    rfl

end ScenarioCompiler.Json
