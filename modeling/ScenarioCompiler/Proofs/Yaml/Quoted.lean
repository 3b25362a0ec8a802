import ScenarioCompiler.Proofs.Json.Scalar
import ScenarioCompiler.Proofs.Outcome
import ScenarioCompiler.Proofs.Yaml.Cursor

namespace ScenarioCompiler.Yaml.Quoted

open Cursor

variable {double : Bool} {c : Cursor} {ch : Char} {text rest lines : List Char} {m n k : Nat}

/-! ### Reading from any place -/

def closing (double : Bool) : Char := if double then '"' else '\''

/-- What `body` does behind a word: the closing quote ends the text, else further words follow. -/
def finish (double : Bool) (fuel : Nat) (c : Cursor) : Except Error (List Char × Cursor) :=
  if c.peek = some (closing double) then pure ([], c.step)
  else do
    let (blanks, c) ← gap (fuel + 1) c
    let (more, c) ← body double fuel c
    pure (blanks ++ more, c)

theorem body_of_word {fuel : Nat} {head tail : List Char} {last : Cursor}
    (hw : word double (fuel + 1) c = .ok (head, c.forward k))
    (hf : finish double fuel (c.forward k) = .ok (tail, last)) :
    body double (fuel + 1) c = .ok (head ++ tail, last) := by
  rw [finish] at hf
  rw [body, hw]
  change (if (c.forward k).peek = some (closing double) then _ else _) = _
  by_cases hp : (c.forward k).peek = some (closing double)
  · rw [if_pos hp] at hf ⊢
    obtain ⟨rfl, rfl⟩ := Prod.mk.inj (Except.ok.inj hf)
    rw [List.append_nil]
    rfl
  · rw [if_neg hp] at hf ⊢
    obtain ⟨⟨blanks, d⟩, hg, hf⟩ := bind_eq_ok.1 hf
    obtain ⟨⟨more, e⟩, hb, hf⟩ := bind_eq_ok.1 hf
    obtain ⟨rfl, rfl⟩ := Prod.mk.inj (Except.ok.inj hf)
    rw [hg, ok_bind]
    change (body double fuel d >>= _) = _
    rw [hb, ← List.append_assoc]
    rfl

/-- From this place, which may be inside a word, the text is read up to its closing quote, which
ends `n` characters further on. The fuel may be anything that suffices for the rest. -/
def Reads (double : Bool) (c : Cursor) (text : List Char) (n : Nat) : Prop :=
  ∃ head tail k, text = head ++ tail ∧
    (∀ fuel > c.rest.length, word double fuel c = .ok (head, c.forward k)) ∧
    ∀ fuel ≥ c.rest.length, finish double fuel (c.forward k) = .ok (tail, c.forward n)

theorem Reads.body_eq (h : Reads double c text n) {fuel : Nat} (hf : c.rest.length ≤ fuel) :
    body double (fuel + 1) c = .ok (text, c.forward n) := by
  obtain ⟨head, tail, k, rfl, hword, hfinish⟩ := h
  exact body_of_word (hword (fuel + 1) (Nat.lt_succ_of_le hf)) (hfinish fuel hf)

theorem Reads.scan_eq (hr : c.rest = ch :: rest) (h : Reads double c.step text n) :
    scan double c = .ok (text, c.forward (n + 1)) := by
  have hlength : c.step.rest.length ≤ c.rest.length := by simp [step_rest, hr]
  exact h.body_eq hlength

/-- A blank in front of a word, or of blanks and a word. -/
def Spaced (rest : List Char) : Prop :=
  ∃ m ch more, rest = List.replicate m ' ' ++ ch :: more ∧ IsInline ch ∧ ch ≠ ' '

theorem spaced_cons (h : IsInline ch) (hs : ch = ' ' → Spaced rest) : Spaced (ch :: rest) := by
  by_cases hb : ch = ' '
  · obtain ⟨m, x, more, rfl, hx⟩ := hs hb
    exact ⟨m + 1, x, more, by rw [hb]; rfl, hx⟩
  · exact ⟨0, ch, rest, rfl, h, hb⟩

theorem span_blanks (hr : c.rest = List.replicate m ' ' ++ ch :: rest) (hi : IsInline ch)
    (hb : ch ≠ ' ') : c.span isInlineBlank = (List.replicate m ' ', c.forward m) := by
  have hspan := span_append (p := isInlineBlank) hr
    (fun x hx => by rw [(List.mem_replicate.1 hx).2]; rfl)
    (fun x hx => by
      cases hx
      exact Bool.eq_false_iff.2 fun h => hb ((isInlineBlank_iff hi).1 h))
  rwa [List.length_replicate] at hspan

theorem gap_blanks (hr : c.rest = List.replicate m ' ' ++ ch :: rest) (hi : IsInline ch)
    (hb : ch ≠ ' ') (fuel : Nat) : gap fuel c = .ok (List.replicate m ' ', c.forward m) := by
  have hp : (c.forward m).peek = some ch := by
    rw [peek, forward_rest, hr, List.drop_left' List.length_replicate]
    rfl
  rw [gap, span_blanks hr hi hb]
  simp only [hp, hi.isBreak, Bool.false_eq_true, if_false]
  rfl

/-- A word does not begin at a blank, a line break or its closing quote. -/
theorem word_eq_nil {fuel : Nat} (hr : c.rest = ch :: rest)
    (h : isInlineBlank ch = true ∨ isBreak ch = true) :
    word double (fuel + 1) c = .ok ([], c) := by
  have hp : c.peek = some ch := by rw [peek, hr]; rfl
  rw [word, hp]
  simp only [Bool.or_eq_true, h, if_true]
  rfl

theorem finish_blanks {fuel : Nat} (hr : c.rest = List.replicate (m + 1) ' ' ++ ch :: rest)
    (hi : IsInline ch) (hb : ch ≠ ' ') :
    finish double fuel c = (body double fuel (c.forward (m + 1))).map fun read =>
      (List.replicate (m + 1) ' ' ++ read.1, read.2) := by
  have hp : c.peek ≠ some (closing double) := by
    have hpeek : c.peek = some ' ' := by rw [peek, hr]; rfl
    rw [hpeek]
    cases double <;> decide
  rw [finish, if_neg hp, gap_blanks hr hi hb]
  change (body double fuel (c.forward (m + 1)) >>= _) = _
  cases body double fuel (c.forward (m + 1)) <;> rfl

/-- A blank that does not end a line, in front of anything. -/
theorem Reads.space (hr : c.rest = ' ' :: rest) (hs : Spaced rest)
    (h : Reads double c.step text n) : Reads double c (' ' :: text) (n + 1) := by
  obtain ⟨m, ch, more, rfl, hi, hb⟩ := hs
  have hstep : c.step.rest = List.replicate m ' ' ++ ch :: more := by rw [step_rest, hr]; rfl
  have hrun : c.rest = List.replicate (m + 1) ' ' ++ ch :: more := hr
  have hlength : c.step.rest.length < c.rest.length := by simp [step_rest, hr]
  refine ⟨[], _, 0, rfl, fun fuel hf => ?_, fun fuel hf => ?_⟩
  · obtain ⟨fuel, rfl⟩ := Nat.exists_eq_succ_of_ne_zero (Nat.ne_zero_of_lt hf)
    exact word_eq_nil hr (.inl rfl)
  · rw [forward_zero, finish_blanks hrun hi hb]
    cases m with
    | zero =>
      obtain ⟨fuel, rfl⟩ : ∃ f, fuel = f + 1 := ⟨fuel - 1, by omega⟩
      have hbody : body double (fuel + 1) c.step = .ok (text, c.step.forward n) :=
        h.body_eq (by omega)
      change Except.map _ (body double (fuel + 1) c.step) = _
      rw [hbody]
      rfl
    | succ m =>
      -- the blanks behind this one were read as they are
      obtain ⟨head, tail, k, rfl, hword, hfinish⟩ := h
      have hnil : word double (c.step.rest.length + 1) c.step = .ok ([], c.step) :=
        word_eq_nil hstep (.inl rfl)
      rw [hword _ (Nat.lt_succ_self _)] at hnil
      obtain ⟨rfl, hk⟩ := Prod.mk.inj (Except.ok.inj hnil)
      have htail := hfinish fuel (by omega)
      rw [hk, finish_blanks hstep hi hb] at htail
      obtain ⟨⟨more, last⟩, hbody, heq⟩ := map_eq_ok.1 htail
      obtain ⟨rfl, rfl⟩ := Prod.mk.inj heq
      change Except.map _ (body double fuel (c.step.forward (m + 1))) = _
      rw [hbody]
      rfl

/-! ### Characters of words -/

/-- Puts the text of an escape or of a character in front of what is read behind it. -/
theorem Reads.prepend (head : List Char) (hm : 0 < m) (hr : m ≤ c.rest.length)
    (hw : ∀ fuel ≥ c.rest.length, word double (fuel + 1) c =
      (word double fuel (c.forward m)).map fun read => (head ++ read.1, read.2))
    (h : Reads double (c.forward m) text n) : Reads double c (head ++ text) (m + n) := by
  obtain ⟨word', tail, k, rfl, hword, hfinish⟩ := h
  have hlength : (c.forward m).rest.length < c.rest.length := by
    rw [forward_rest, List.length_drop]
    omega
  refine ⟨head ++ word', tail, m + k, (List.append_assoc _ _ _).symm, fun fuel hf => ?_,
    fun fuel hf => ?_⟩
  · obtain ⟨fuel, rfl⟩ := Nat.exists_eq_succ_of_ne_zero (Nat.ne_zero_of_lt hf)
    rw [hw fuel (by omega), hword fuel (by omega), forward_add]
    rfl
  · rw [forward_add, forward_add]
    exact hfinish fuel (by omega)

theorem Reads.close (hr : c.rest = closing double :: rest)
    (hd : double = false → rest.head? ≠ some '\'') : Reads double c [] 1 := by
  have hp : c.peek = some (closing double) := by rw [peek, hr]; rfl
  refine ⟨[], [], 0, rfl, fun fuel hf => ?_, fun fuel _ => ?_⟩
  · obtain ⟨fuel, rfl⟩ := Nat.exists_eq_succ_of_ne_zero (Nat.ne_zero_of_lt hf)
    rw [word, hp]
    cases double with
    | true => rfl
    | false =>
      have hnext : c.peekAt 1 ≠ some '\'' := by
        rw [peekAt, hr, List.getElem?_cons_succ, ← List.head?_eq_getElem?]
        exact hd rfl
      change (if c.peekAt 1 = some '\'' then _ else _) = _
      rw [if_neg hnext]
      rfl
  · rw [finish, forward_zero, if_pos hp]
    rfl

/-- A character that is neither special nor a blank stands for itself. -/
theorem Reads.char (hr : c.rest = ch :: rest) (hi : IsInline ch) (hs : ch ≠ ' ')
    (hq : ch ≠ closing double) (he : double = true → ch ≠ '\\') (h : Reads double c.step text n) :
    Reads double c (ch :: text) (1 + n) := by
  have hp : c.peek = some ch := by rw [peek, hr]; rfl
  refine Reads.prepend [ch] Nat.one_pos (by simp [hr]) (fun fuel _ => ?_) h
  have hword : word double (fuel + 1) c =
      (do let (more, c) ← word double fuel c.step; pure (ch :: more, c)) := by
    rw [word, hp]
    cases double with
    | true =>
      simp [isInlineBlank, hs, hi.ne_tab, hi.isBreak, show ch ≠ '"' from hq, he rfl]
    | false => simp [isInlineBlank, hs, hi.ne_tab, hi.isBreak, show ch ≠ '\'' from hq]
  rw [hword]
  change _ = (word double fuel c.step).map _
  cases word double fuel c.step <;> rfl

/-- Two apostrophes stand for one. -/
theorem Reads.apostrophe (hr : c.rest = '\'' :: '\'' :: rest)
    (h : Reads false (c.forward 2) text n) : Reads false c ('\'' :: text) (2 + n) := by
  have hp : c.peek = some '\'' := by rw [peek, hr]; rfl
  have hp' : c.peekAt 1 = some '\'' := by rw [peekAt, hr]; rfl
  refine Reads.prepend ['\''] Nat.two_pos (by simp [hr]) (fun fuel _ => ?_) h
  have hword : word false (fuel + 1) c =
      (do let (more, c) ← word false fuel (c.forward 2); pure ('\'' :: more, c)) := by
    rw [word, hp]
    change (if c.peekAt 1 = some '\'' then _ else _) = _
    rw [if_pos hp']
  rw [hword]
  cases word false fuel (c.forward 2) <;> rfl

/-- An escape stands for the text that it is read as. -/
theorem Reads.escape (meaning : List Char) (hr : c.rest = '\\' :: rest) (hm : m ≤ rest.length)
    (he : ∀ fuel ≥ c.step.rest.length, escape fuel c.step = .ok (meaning, c.step.forward m))
    (h : Reads true (c.forward (m + 1)) text n) : Reads true c (meaning ++ text) (m + 1 + n) := by
  have hp : c.peek = some '\\' := by rw [peek, hr]; rfl
  refine Reads.prepend meaning (Nat.succ_pos m) (by rw [hr]; exact Nat.succ_le_succ hm)
    (fun fuel hf => ?_) h
  have hlength : c.step.rest.length ≤ c.rest.length := by simp [step_rest, hr]
  have hword : word true (fuel + 1) c = (do
      let (meaning, c) ← Quoted.escape fuel c.step
      let (more, c) ← word true fuel c
      pure (meaning ++ more, c)) := by
    rw [word, hp]
    rfl
  rw [hword, he fuel (Nat.le_trans hlength hf)]
  change (word true fuel (c.forward (m + 1)) >>= _) = _
  cases word true fuel (c.forward (m + 1)) <;> rfl

/-! ### Line breaks -/

/-- From this place, right behind a line break, line breaks are read up to the next character,
which is `k` characters further on. -/
def BreaksAt (c : Cursor) (breaks : List Char) (k : Nat) : Prop :=
  ∀ fuel > c.rest.length, emptyLines fuel c = .ok (breaks, c.forward k)

theorem BreaksAt.indent (hm : 0 < m) (hr : c.rest = List.replicate m ' ' ++ ch :: rest)
    (hi : IsInline ch) (hb : ch ≠ ' ') : BreaksAt c [] m := by
  intro fuel hf
  obtain ⟨fuel, rfl⟩ := Nat.exists_eq_succ_of_ne_zero (Nat.ne_zero_of_lt hf)
  have hmark : c.atDocumentMark = false := by
    obtain ⟨m, rfl⟩ := Nat.exists_eq_add_of_lt hm
    rw [Nat.zero_add] at hr
    have hspace : c.rest = ' ' :: (List.replicate m ' ' ++ ch :: rest) := hr
    exact atDocumentMark_eq_false hspace (by decide) (by decide)
  have hskip : c.skip isInlineBlank = c.forward m := by rw [skip, span_blanks hr hi hb]
  have hp : (c.forward m).peek = some ch := by
    rw [peek, forward_rest, hr, List.drop_left' List.length_replicate]
    rfl
  rw [emptyLines, hmark]
  simp [hskip, hp, isBreakOrEnd, hi.isBreak]

theorem BreaksAt.newline (hr : c.rest = '\n' :: rest) (h : BreaksAt c.step lines k) :
    BreaksAt c ('\n' :: lines) (k + 1) := by
  intro fuel hf
  obtain ⟨fuel, rfl⟩ := Nat.exists_eq_succ_of_ne_zero (Nat.ne_zero_of_lt hf)
  have hmark : c.atDocumentMark = false :=
    atDocumentMark_eq_false hr (by decide) (by decide)
  have hspan : c.span isInlineBlank = ([], c) := by rw [span, hr]; rfl
  have hskip : c.skip isInlineBlank = c := by rw [skip, hspan]
  have hp : c.peek = some '\n' := by rw [peek, hr]; rfl
  have hlength : fuel > c.step.rest.length := by
    rw [step_rest, hr]
    rw [hr] at hf
    exact Nat.lt_of_succ_lt_succ hf
  rw [emptyLines, hmark]
  simp [hskip, hp, isBreakOrEnd, isBreak, lineBreak_newline hr, h fuel hlength]
  rfl

/-- A line break and the empty lines behind it, as they are folded. -/
theorem Reads.folded (hr : c.rest = '\n' :: rest) (hb : BreaksAt c.step lines k) (hk : 0 < k)
    (h : Reads double (c.forward (k + 1)) text n) :
    Reads double c (Yaml.folded ['\n'] lines ++ text) (k + 1 + n) := by
  have hp : c.peek = some '\n' := by rw [peek, hr]; rfl
  have hlength : c.step.rest.length + 1 = c.rest.length := by rw [step_rest, hr]; rfl
  have hlast : (c.forward (k + 1)).rest.length ≤ c.rest.length - 2 := by
    rw [forward_rest, List.length_drop]
    omega
  refine ⟨[], _, 0, rfl, fun fuel hf => ?_, fun fuel hf => ?_⟩
  · obtain ⟨fuel, rfl⟩ := Nat.exists_eq_succ_of_ne_zero (Nat.ne_zero_of_lt hf)
    exact word_eq_nil hr (.inr rfl)
  · have hne : c.peek ≠ some (closing double) := by
      rw [hp]
      cases double <;> decide
    have hspan : c.span isInlineBlank = ([], c) := by rw [span, hr]; rfl
    have hgap : gap (fuel + 1) c = .ok (Yaml.folded ['\n'] lines, c.forward (k + 1)) := by
      rw [gap, hspan]
      simp only [hp, show isBreak '\n' = true from rfl, if_true, lineBreak_newline hr]
      rw [hb (fuel + 1) (by omega)]
      rfl
    obtain ⟨fuel, rfl⟩ : ∃ f, fuel = f + 1 := ⟨fuel - 1, by omega⟩
    rw [finish, forward_zero, if_neg hne, hgap, ok_bind]
    change (body double (fuel + 1) (c.forward (k + 1)) >>= _) = _
    rw [h.body_eq (by omega), ← forward_add]
    rfl

/-- From this place, right behind a line break, the text is read as empty lines and what follows
them. -/
def Lines (c : Cursor) (text : List Char) (n : Nat) : Prop :=
  ∃ lines more k m, text = lines ++ more ∧ n = k + m ∧ BreaksAt c lines k ∧
    Reads false (c.forward k) more m

theorem Lines.indent (hm : 0 < m) (hr : c.rest = List.replicate m ' ' ++ ch :: rest)
    (hi : IsInline ch) (hb : ch ≠ ' ') (h : Reads false (c.forward m) text n) :
    Lines c text (m + n) :=
  ⟨[], text, m, n, rfl, rfl, .indent hm hr hi hb, h⟩

theorem Lines.newline (hr : c.rest = '\n' :: rest) (h : Lines c.step text n) :
    Lines c ('\n' :: text) (1 + n) := by
  obtain ⟨lines, more, k, m, rfl, rfl, hb, hm⟩ := h
  exact ⟨'\n' :: lines, more, k + 1, m, rfl, by omega, hb.newline hr, hm⟩

/-- Of several line breaks the first is not part of the text. -/
theorem Reads.ofLines (hr : c.rest = '\n' :: '\n' :: rest) (h : Lines (c.forward 2) text n) :
    Reads false c ('\n' :: text) (2 + n) := by
  obtain ⟨lines, more, k, m, rfl, rfl, hb, hm⟩ := h
  have hstep : c.step.rest = '\n' :: rest := by rw [step_rest, hr]; rfl
  have hmore : Reads false (c.forward (k + 1 + 1)) more m := by
    rwa [Nat.add_assoc, Nat.add_comm, forward_add]
  have := Reads.folded hr (BreaksAt.newline hstep hb) (Nat.succ_pos k) hmore
  rw [show 2 + (k + m) = k + 1 + 1 + m by omega]
  exact this

/-- A single line break stands for a blank. -/
theorem Reads.fold (hm : 0 < m) (hr : c.rest = '\n' :: (List.replicate m ' ' ++ ch :: rest))
    (hi : IsInline ch) (hb : ch ≠ ' ') (h : Reads false (c.forward (m + 1)) text n) :
    Reads false c (' ' :: text) (m + 1 + n) := by
  have hstep : c.step.rest = List.replicate m ' ' ++ ch :: rest := by rw [step_rest, hr]; rfl
  exact Reads.folded hr (BreaksAt.indent hm hstep hi hb) hm h

/-! ### Escapes -/

theorem hexNumber?_upperHex (width n : Nat) :
    hexNumber? (Writer.upperHex width n) = some (n % 16 ^ width) := by
  have hd : ∀ d < 16, Json.hexValue? (Text.hexDigit d).toUpper = some d := by decide
  induction width generalizing n with
  | zero => simp [Writer.upperHex, Text.hexDigits, hexNumber?, Nat.mod_one]
  | succ width ih =>
    have hi := ih (n / 16)
    rw [hexNumber?, Writer.upperHex] at hi
    rw [hexNumber?, Writer.upperHex, Text.hexDigits, List.map_append, List.foldlM_append, hi]
    have hdigit := hd (n % 16) (Nat.mod_lt _ (by decide))
    have hn : n / 16 % 16 ^ width * 16 + n % 16 = n % 16 ^ (width + 1) := by
      rw [Nat.pow_succ', Nat.mod_mul]
      omega
    simp [hdigit, hn]

theorem character_toNat (ch : Char) : character ch.toNat = .ok ch := by
  have hv := Json.toNat_valid ch
  have hlarge : ¬ 0x7FFFFFFF < ch.toNat := by omega
  have hrange : ¬ 0x10FFFF < ch.toNat := by omega
  have hsurrogate : ¬ (0xD800 ≤ ch.toNat ∧ ch.toNat < 0xE000) := by omega
  simp [character, hlarge, hrange, hsurrogate]

theorem length_upperHex (width n : Nat) : (Writer.upperHex width n).length = width := by
  induction width generalizing n with
  | zero => rfl
  | succ width ih =>
    have hi := ih (n / 16)
    rw [Writer.upperHex, List.length_map] at hi ⊢
    rw [Text.hexDigits, List.length_append, hi]
    rfl

theorem isInline_upperHex (width n : Nat) : ∀ x ∈ Writer.upperHex width n, IsInline x := by
  have hd : ∀ d < 16, IsInline (Text.hexDigit d).toUpper := by decide
  induction width generalizing n with
  | zero => simp [Writer.upperHex, Text.hexDigits]
  | succ width ih =>
    intro x hx
    rw [Writer.upperHex, Text.hexDigits, List.map_append] at hx
    rcases List.mem_append.1 hx with hx | hx
    · exact ih (n / 16) x hx
    · rw [List.mem_singleton.1 hx]
      exact hd _ (Nat.mod_lt _ (by decide))

/-- A code point in as many digits as its escape has. -/
theorem escape_code {sign : Char} {width : Nat} (hs : simpleEscapes.lookup sign = none)
    (hw : codeEscapes.lookup sign = some width) (hn : ch.toNat < 16 ^ width)
    (hr : c.rest = sign :: Writer.upperHex width ch.toNat ++ rest) (fuel : Nat) :
    escape fuel c = .ok ([ch], c.forward (width + 1)) := by
  have hp : c.peek = some sign := by rw [peek, hr]; rfl
  have htake : c.step.rest.take width = Writer.upperHex width ch.toNat := by
    rw [step_rest, hr]
    exact List.take_left' (length_upperHex _ _)
  have hn' : hexNumber? (Writer.upperHex width ch.toNat) = some ch.toNat := by
    rw [hexNumber?_upperHex, Nat.mod_eq_of_lt hn]
  rw [escape, hp]
  simp only [hs, hw, htake, length_upperHex, Nat.lt_irrefl, if_false, hn', character_toNat]
  rfl

/-- The escape of a character is read as the character. -/
theorem escape_written (ch : Char) : ∃ signs, Writer.escape ch = '\\' :: signs ∧
    (∀ x ∈ signs, IsInline x) ∧ ∀ (c : Cursor) (rest : List Char) (fuel : Nat),
      c.rest = signs ++ rest → escape fuel c = .ok ([ch], c.forward signs.length) := by
  have hv := Json.toNat_valid ch
  unfold Writer.escape
  cases hl : Writer.letterEscapes.lookup ch with
  | some letter =>
    have hall : ∀ entry ∈ Writer.letterEscapes,
        simpleEscapes.lookup entry.2 = some entry.1 ∧ IsInline entry.2 := by decide
    obtain ⟨before, after, he, -⟩ := List.lookup_eq_some_iff.1 hl
    obtain ⟨hread, hinline⟩ := hall (ch, letter) (by simp [he])
    refine ⟨[letter], rfl, by simpa using hinline, fun c rest fuel hr => ?_⟩
    have hp : c.peek = some letter := by rw [peek, hr]; rfl
    rw [escape, hp]
    simp only [hread]
    rfl
  | none =>
    have code {sign : Char} {width : Nat} (hi : IsInline sign)
        (hs : simpleEscapes.lookup sign = none) (hw : codeEscapes.lookup sign = some width)
        (hn : ch.toNat < 16 ^ width) : ∃ signs,
        '\\' :: sign :: Writer.upperHex width ch.toNat = '\\' :: signs ∧
          (∀ x ∈ signs, IsInline x) ∧ ∀ (c : Cursor) (rest : List Char) (fuel : Nat),
            c.rest = signs ++ rest → escape fuel c = .ok ([ch], c.forward signs.length) := by
      refine ⟨_, rfl, ?_, fun c rest fuel hr => ?_⟩
      · intro x hx
        rcases List.mem_cons.1 hx with rfl | hx
        · exact hi
        · exact isInline_upperHex _ _ x hx
      · rw [List.length_cons, length_upperHex]
        exact escape_code hs hw hn hr fuel
    dsimp only
    split
    · exact code (by decide) (by decide) rfl (by omega)
    split
    · exact code (by decide) (by decide) rfl (by omega)
    · exact code (by decide) (by decide) rfl (by omega)

/-- A line break behind a backslash is not part of the text. -/
theorem escape_softBreak (hm : 0 < m)
    (hr : c.rest = '\n' :: (List.replicate m ' ' ++ ch :: rest)) (hi : IsInline ch) (hb : ch ≠ ' ')
    {fuel : Nat} (hf : c.rest.length ≤ fuel) : escape fuel c = .ok ([], c.forward (m + 1)) := by
  have hp : c.peek = some '\n' := by rw [peek, hr]; rfl
  have hstep : c.step.rest = List.replicate m ' ' ++ ch :: rest := by rw [step_rest, hr]; rfl
  have hlength : c.step.rest.length < fuel := by
    rw [step_rest, hr]
    rw [hr] at hf
    exact hf
  rw [escape, hp]
  simp only [show simpleEscapes.lookup '\n' = none by decide,
    show codeEscapes.lookup '\n' = none by decide, show isBreak '\n' = true by decide, if_true,
    lineBreak_newline hr, BreaksAt.indent hm hstep hi hb fuel hlength]
  rfl

end ScenarioCompiler.Yaml.Quoted
