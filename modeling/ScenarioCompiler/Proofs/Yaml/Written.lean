import ScenarioCompiler.Proofs.Yaml.PlainText
import ScenarioCompiler.Proofs.Yaml.QuotedText

namespace ScenarioCompiler.Yaml.Writer

open Plain Quoted

variable {p q : Place} {text : List Char} {x : Char}

/-! ### The characters of scalars -/

/-- A printable character, or a line break at a place where lines may break. -/
def OnLines (breaks : Bool) (x : Char) : Prop := IsInline x ∨ (x = '\n' ∧ breaks = true)

instance (breaks : Bool) (x : Char) : Decidable (OnLines breaks x) :=
  inferInstanceAs (Decidable (_ ∨ _))

theorem OnLines.isReadable {breaks : Bool} (h : OnLines breaks x) : isReadable x = true := by
  rcases h with h | ⟨rfl, -⟩
  · exact h.isReadable
  · decide

theorem onLines_newLine (h : p.split = true) (hx : x ∈ newLine p.indent) : OnLines p.split x := by
  rcases List.mem_cons.1 hx with rfl | hx
  · exact .inr ⟨rfl, h⟩
  · exact .inl (forall_isInline_replicate _ x hx)

theorem onLines_plainChars (ho : ∀ x ∈ text, isOrdinary x = true) (hn : '\n' ∉ text) (p : Place)
    (column : Nat) (afterSpace : Bool) :
    ∀ x ∈ plainChars p column afterSpace text, OnLines p.split x := by
  induction text generalizing column afterSpace with
  | nil => exact fun x hx => absurd hx List.not_mem_nil
  | cons ch text ih =>
    intro x hx
    have ih := ih (fun x hx => ho x (List.mem_cons_of_mem _ hx))
      (fun h => hn (List.mem_cons_of_mem _ h))
    rcases plainChars_cons p column afterSpace ch text with ⟨hs, -, -, -, hw⟩ | hw
    · rw [hw, List.mem_append] at hx
      exact hx.elim (onLines_newLine hs) (ih _ _ x)
    · rw [hw, List.mem_cons] at hx
      rcases hx with rfl | hx
      · exact .inl (isInline_of_isOrdinary (ho x List.mem_cons_self)
          fun h => hn (h ▸ List.mem_cons_self))
      · exact ih _ _ x hx

theorem onLines_softBreak (h : p.split = true) {next : Option Char}
    (hx : x ∈ softBreak p next) : OnLines p.split x := by
  rw [softBreak, List.cons_append, List.mem_cons, List.mem_append] at hx
  rcases hx with rfl | hx | hx
  · exact .inl (by decide)
  · exact onLines_newLine h hx
  · split at hx
    · rw [List.mem_singleton] at hx
      exact .inl (hx ▸ by decide)
    · exact absurd hx List.not_mem_nil

theorem onLines_escape {breaks : Bool} {ch : Char} (hx : x ∈ escape ch) : OnLines breaks x := by
  obtain ⟨signs, hs, hi, -⟩ := escape_written ch
  rw [hs, List.mem_cons] at hx
  rcases hx with rfl | hx
  · exact .inl (by decide)
  · exact .inl (hi x hx)

theorem onLines_doubleChars (p : Place) (column : Nat) (afterEscape first : Bool)
    (text : List Char) : ∀ x ∈ doubleChars p column afterEscape first text, OnLines p.split x := by
  induction text generalizing column afterEscape first with
  | nil => exact fun x hx => absurd hx List.not_mem_nil
  | cons ch text ih =>
    intro x hx
    have raw {column : Nat} (he : needsEscape ch = false)
        (hx : x ∈ ch :: doubleChars p column false false text) : OnLines p.split x := by
      rcases List.mem_cons.1 hx with rfl | hx
      · exact .inl (isInline_of_not_needsEscape he).1
      · exact ih _ _ _ x hx
    rcases doubleChars_cons p column afterEscape first ch text with
      ⟨-, hs, hw⟩ | ⟨-, _, hw⟩ | ⟨he, hs, _, hw⟩ | ⟨he, _, hw⟩
    · rw [hw, List.mem_append, List.mem_append] at hx
      exact hx.elim onLines_escape fun hx => hx.elim (onLines_softBreak hs) (ih _ _ _ x)
    · rw [hw, List.mem_append] at hx
      exact hx.elim onLines_escape (ih _ _ _ x)
    · rw [hw, List.mem_append] at hx
      exact hx.elim (onLines_softBreak hs) (raw he)
    · rw [hw] at hx
      exact raw he hx

theorem onLines_singleChars (ho : ∀ x ∈ text, isOrdinary x = true) {breaks : Bool}
    (hn : '\n' ∈ text → breaks = true) (hp : p.split = true → breaks = true) (column : Nat)
    (before : Option Char) : ∀ x ∈ singleChars p column before text, OnLines breaks x := by
  induction text generalizing column before with
  | nil => exact fun x hx => absurd hx List.not_mem_nil
  | cons ch text ih =>
    intro x hx
    have ih := ih (fun x hx => ho x (List.mem_cons_of_mem _ hx))
      (fun h => hn (List.mem_cons_of_mem _ h))
    rcases singleChars_cons p column before ch text with
      ⟨-, _, hw⟩ | ⟨rfl, hw⟩ | ⟨-, -, -, hs, hw⟩ | ⟨-, hl, hw⟩
    · rw [hw, List.mem_cons, List.mem_cons] at hx
      rcases hx with rfl | rfl | hx
      · exact .inl (by decide)
      · exact .inl (by decide)
      · exact ih _ _ x hx
    · rw [hw, List.mem_append, List.mem_append] at hx
      rcases hx with hx | hx | hx
      · have hx : x = '\n' := by
          split at hx <;> simpa using hx
        exact .inr ⟨hx, hn List.mem_cons_self⟩
      · split at hx
        · exact absurd hx List.not_mem_nil
        · exact .inl (forall_isInline_replicate _ x hx)
      · exact ih _ _ x hx
    · rw [hw, List.mem_append] at hx
      rcases hx with hx | hx
      · exact (onLines_newLine hs hx).imp id fun h => ⟨h.1, hp hs⟩
      · exact ih _ _ x hx
    · rw [hw, List.mem_cons] at hx
      rcases hx with rfl | hx
      · exact .inl (isInline_of_isOrdinary (ho x List.mem_cons_self) hl)
      · exact ih _ _ x hx

/-! ### Where lines may not break, the place does not matter -/

theorem plainChars_unsplit (hp : p.split = false) (text : List Char) (column : Nat)
    (afterSpace : Bool) : plainChars p column afterSpace text = text := by
  induction text generalizing column afterSpace with
  | nil => rfl
  | cons ch text ih =>
    rcases plainChars_cons p column afterSpace ch text with ⟨hs, -⟩ | hw
    · exact Bool.noConfusion (hs.symm.trans hp)
    · rw [hw, ih]

theorem singleChars_unsplit (hp : p.split = false) (hn : '\n' ∉ text) (column : Nat)
    (before : Option Char) : singleChars p column before text =
      text.flatMap fun ch => if ch = '\'' then ['\'', '\''] else [ch] := by
  induction text generalizing column before with
  | nil => rfl
  | cons ch text ih =>
    have hch : ch ≠ '\n' := fun h => hn (h ▸ List.mem_cons_self)
    have ih := ih fun h => hn (List.mem_cons_of_mem _ h)
    rw [List.flatMap_cons]
    by_cases hq : ch = '\''
    · simp only [singleChars, hq, if_true, ih]
      rfl
    · simp only [singleChars, hq, hch, hp, Bool.and_false, if_false, ih]
      rfl

theorem doubleChars_unsplit (hp : p.split = false) (column : Nat) (afterEscape first : Bool)
    (text : List Char) : doubleChars p column afterEscape first text =
      text.flatMap fun ch => if needsEscape ch then escape ch else [ch] := by
  induction text generalizing column afterEscape first with
  | nil => rfl
  | cons ch text ih =>
    rw [List.flatMap_cons]
    cases he : needsEscape ch with
    | true =>
      simp only [doubleChars, he, hp, Bool.and_false, Bool.false_and, ih]
      rfl
    | false =>
      simp only [doubleChars, he, hp, Bool.and_false, Bool.false_and, ih]
      rfl

/-! ### Styles -/

/-- Whether a text may be written in a style. -/
def Suits : Style → List Char → Prop
  | .plain, text => allowsPlain text = true
  | .single, text => allowsSingle text = true
  | .double, _ => True

theorem suits_styleOf (isKey : Bool) (text : String) : Suits (styleOf isKey text) text.toList := by
  unfold styleOf
  dsimp only
  split
  · rename_i h
    rw [Bool.and_eq_true] at h
    exact h.2
  · split
    · rename_i h
      rw [Bool.and_eq_true] at h
      exact h.1
    · trivial

/-- Plain texts do not look like anything else. -/
theorem ofPlain_of_styleOf {isKey : Bool} {text : String} (h : styleOf isKey text = .plain) :
    Tag.ofPlain text = .str := by
  unfold styleOf at h
  dsimp only at h
  split at h
  · rename_i ht
    simp only [Bool.and_eq_true, decide_eq_true_eq] at ht
    exact ht.1
  · split at h <;> cases h

theorem newline_not_mem_of_continuesPlain {afterBlank : Bool}
    (h : continuesPlain afterBlank text = true) : '\n' ∉ text := by
  induction text generalizing afterBlank with
  | nil => exact List.not_mem_nil
  | cons ch text ih =>
    obtain ⟨hn, -, -, hc⟩ := continuesPlain_cons h
    exact fun hm => (List.mem_cons.1 hm).elim (fun he => hn he.symm) (ih hc)

theorem newline_not_mem_of_plain (h : allowsPlain text = true) : '\n' ∉ text := by
  rw [allowsPlain, Bool.and_eq_true] at h
  exact newline_not_mem_of_continuesPlain h.2

/-- A key that stands on the line of its value has no line break between apostrophes. -/
theorem newline_not_mem_of_single {text : String} (h : styleOf true text = .single) :
    '\n' ∉ text.toList := by
  unfold styleOf at h
  dsimp only at h
  split at h
  · cases h
  · split at h
    · rename_i hs
      simpa using (Bool.and_eq_true_iff.1 hs).2
    · cases h

theorem onLines_textChars {style : Style} (hs : Suits style text) {breaks : Bool}
    (hp : p.split = true → breaks = true) (hn : style = .single → '\n' ∈ text → breaks = true)
    (column : Nat) : ∀ x ∈ textChars style p column text, OnLines breaks x := by
  have hbreaks {x : Char} (hx : OnLines p.split x) : OnLines breaks x :=
    hx.imp id fun h => ⟨h.1, hp h.2⟩
  have quote {quote : Char} (hq : IsInline quote) {written : List Char}
      (h : ∀ x ∈ written, OnLines breaks x) :
      ∀ x ∈ quote :: written ++ [quote], OnLines breaks x := by
    intro x hx
    rw [List.cons_append, List.mem_cons, List.mem_append, List.mem_singleton] at hx
    rcases hx with rfl | hx | rfl
    · exact .inl hq
    · exact h x hx
    · exact .inl hq
  cases style with
  | plain =>
    have ho : ∀ x ∈ text, isOrdinary x = true := by
      have h := hs
      simp only [Suits, allowsPlain, Bool.and_eq_true, List.all_eq_true] at h
      exact h.1.1
    exact fun x hx =>
      hbreaks (onLines_plainChars ho (newline_not_mem_of_plain hs) p column false x hx)
  | single =>
    have ho : ∀ x ∈ text, isOrdinary x = true := by
      have h := hs
      simp only [Suits, allowsSingle, Bool.and_eq_true, List.all_eq_true] at h
      exact h.1
    exact quote (by decide) (onLines_singleChars ho (hn rfl) hp _ _)
  | double =>
    exact quote (by decide) fun x hx => hbreaks (onLines_doubleChars p _ _ _ text x hx)

/-! ### Keys that stand in front of their values -/

/-- Such a key is written in the same way at any indentation. -/
theorem simpleKeyChars_eq (indent : Nat) (key : String) :
    simpleKeyChars indent key = simpleKeyChars 0 key := by
  unfold simpleKeyChars
  cases hs : styleOf true key with
  | plain => exact (plainChars_unsplit rfl _ _ _).trans (plainChars_unsplit rfl _ _ _).symm
  | single =>
    have hn := newline_not_mem_of_single hs
    rw [textChars, textChars, singleChars_unsplit (p := ⟨indent + 2, false⟩) rfl hn,
      singleChars_unsplit (p := ⟨0 + 2, false⟩) rfl hn]
  | double =>
    rw [textChars, textChars, doubleChars_unsplit (p := ⟨indent + 2, false⟩) rfl,
      doubleChars_unsplit (p := ⟨0 + 2, false⟩) rfl]

theorem isInline_simpleKeyChars (indent : Nat) (key : String) :
    ∀ x ∈ simpleKeyChars indent key, IsInline x := by
  intro x hx
  have h : OnLines false x := onLines_textChars (suits_styleOf true key) (fun h => h)
    (fun hs hn => absurd hn (newline_not_mem_of_single hs)) _ x hx
  exact h.resolve_right fun h => Bool.noConfusion h.2

/-- An escape has at most eight digits. -/
theorem length_escape_le (ch : Char) : (escape ch).length ≤ 10 := by
  unfold escape
  split
  · exact Nat.le_of_ble_eq_true rfl
  · split
    · simp [length_upperHex]
    · split <;> simp [length_upperHex]

theorem length_flatMap_le {f : Char → List Char} {n : Nat} (h : ∀ ch, (f ch).length ≤ n)
    (text : List Char) : (text.flatMap f).length ≤ n * text.length := by
  induction text with
  | nil => exact Nat.zero_le _
  | cons ch text ih =>
    have := h ch
    rw [List.flatMap_cons, List.length_append, List.length_cons, Nat.mul_succ]
    omega

theorem length_simpleKeyChars_le (indent : Nat) (key : String) :
    (simpleKeyChars indent key).length ≤ 10 * key.length + 2 := by
  have hsingle : ∀ ch : Char, (if ch = '\'' then ['\'', '\''] else [ch]).length ≤ 10 := by
    intro ch
    split <;> exact Nat.le_of_ble_eq_true rfl
  have hdouble : ∀ ch : Char, (if needsEscape ch then escape ch else [ch]).length ≤ 10 := by
    intro ch
    split
    · exact length_escape_le ch
    · exact Nat.le_of_ble_eq_true rfl
  have hs := length_flatMap_le hsingle key.toList
  have hd := length_flatMap_le hdouble key.toList
  rw [← String.length_toList]
  unfold simpleKeyChars
  cases h : styleOf true key with
  | plain =>
    rw [textChars, plainChars_unsplit rfl]
    omega
  | single =>
    rw [textChars, singleChars_unsplit rfl (newline_not_mem_of_single h)]
    simpa using hs
  | double =>
    rw [textChars, doubleChars_unsplit rfl]
    simpa using hd

/-! ### Characters beyond the basic plane -/

section Character

variable {ch : Char} (h : 0xFFFF < ch.toNat)

include h

theorem ne_of_beyond {b : Char} (hb : b.toNat ≤ 0xFFFF) : ch ≠ b :=
  fun heq => absurd (heq ▸ hb) (Nat.not_le_of_lt h)

theorem length_escape_beyond : (escape ch).length = 10 := by
  have hbelow : ∀ e ∈ letterEscapes, e.1.toNat ≤ 0xFFFF := by decide
  have hlookup : letterEscapes.lookup ch = none :=
    List.lookup_eq_none_iff.2 fun e he => by simpa using ne_of_beyond h (hbelow e he)
  rw [escape, hlookup]
  dsimp only
  rw [if_neg (by omega), if_neg (by omega), List.length_cons, List.length_cons, length_upperHex]

theorem needsEscape_beyond : needsEscape ch = true := by
  have hrange : ¬ ch.toNat ≤ 126 := by omega
  simp [needsEscape, hrange]

theorem isOrdinary_beyond : isOrdinary ch = false := by
  have hrange : ¬ ch.toNat ≤ 126 := by omega
  have hne : ch ≠ '\n' := ne_of_beyond h (by decide)
  simp [isOrdinary, hrange, hne]

theorem isBreak_beyond : isBreak ch = false := by
  have hbelow : ∀ b : Char, b.toNat ≤ 0xFFFF → ch ≠ b := fun _ => ne_of_beyond h
  simp [isBreak, hbelow]

end Character

section Beyond

variable {key : String} (hne : key ≠ "") (h : ∀ ch ∈ key.toList, 0xFFFF < ch.toNat)

include hne h

theorem styleOf_beyond (isKey : Bool) : styleOf isKey key = .double := by
  have hall : key.toList.all isOrdinary = false := by
    obtain ⟨ch, hch⟩ := List.exists_mem_of_ne_nil _ (mt String.toList_eq_nil_iff.1 hne)
    exact List.all_eq_false.2 ⟨ch, hch, by simp [isOrdinary_beyond (h ch hch)]⟩
  simp [styleOf, allowsPlain, allowsSingle, hall]

/-- Each character has the longest escape. -/
theorem length_simpleKeyChars_beyond (indent : Nat) :
    (simpleKeyChars indent key).length = 10 * key.length + 2 := by
  have hescape : ∀ ch ∈ key.toList,
      (if needsEscape ch then escape ch else [ch]).length = 10 := fun ch hch => by
    rw [if_pos (needsEscape_beyond (h ch hch)), length_escape_beyond (h ch hch)]
  rw [simpleKeyChars, styleOf_beyond hne h, textChars, doubleChars_unsplit rfl]
  rw [List.length_append, List.length_cons, List.length_flatMap, List.map_congr_left hescape,
    List.map_const', List.sum_replicate_nat, String.length_toList, List.length_singleton]
  omega

theorem isSimpleKey_beyond (hlength : key.length + tagLength < 128) : isSimpleKey key = true := by
  have hbreak : (key.toList.any fun c => c != '\r' && isBreak c) = false :=
    List.any_eq_false.2 fun ch hch => by simp [isBreak_beyond (h ch hch)]
  simp [isSimpleKey, hlength, hne, hbreak]

end Beyond

end ScenarioCompiler.Yaml.Writer
