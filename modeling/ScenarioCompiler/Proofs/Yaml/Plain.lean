import ScenarioCompiler.Proofs.Yaml.Cursor

namespace ScenarioCompiler.Yaml.Plain

open Cursor

variable {indent : Int} {c last : Cursor} {ch : Char} {text rest more : List Char} {m : Nat}
  {ended : Bool}

/-- What `body` does behind a word of a block. -/
def finish (indent : Int) (fuel : Nat) (c : Cursor) : List Char × Cursor × Bool :=
  let (blanks, c, lineEnded) := gap c
  if blanks.isEmpty || c.peek = some '#' || (!false && (c.column : Int) < indent) then
    ([], c, lineEnded)
  else body false indent fuel blanks lineEnded c

/-- From this place, which may be inside a word, the text is read up to its end, where the cursor is
at `last`. The fuel may be anything that suffices for the rest. -/
def Reads (indent : Int) (c : Cursor) (text : List Char) (last : Cursor) (ended : Bool) : Prop :=
  ∃ tail, text = word false c.rest ++ tail ∧ ∀ fuel ≥ c.rest.length,
    finish indent fuel (c.forward (word false c.rest).length) = (tail, last, ended)

/-- A place where a word begins. -/
def WordAt (rest : List Char) : Prop :=
  ∃ ch more, rest = ch :: more ∧ ends false rest = false ∧ ch ≠ '#'

theorem WordAt.word_ne_nil (h : WordAt rest) : word false rest ≠ [] := by
  obtain ⟨ch, more, rfl, hends, -⟩ := h
  simp [word, hends]

theorem body_of_finish (h : WordAt c.rest) {fuel : Nat} {tail : List Char}
    (hf : finish indent fuel (c.forward (word false c.rest).length) = (tail, last, ended))
    (blanks : List Char) (lineEnded : Bool) :
    body false indent (fuel + 1) blanks lineEnded c =
      (blanks ++ word false c.rest ++ tail, last, ended) := by
  have hne := h.word_ne_nil
  have hmark : c.peek ≠ some '#' := by
    obtain ⟨ch, more, hr, -, hch⟩ := h
    rw [peek, hr]
    exact fun he => hch (Option.some.inj he)
  rw [finish] at hf
  rw [body]
  simp only [hmark, decide_false, Bool.false_or, List.isEmpty_iff, hne, if_false]
  generalize gap (c.forward (word false c.rest).length) = behind at hf ⊢
  obtain ⟨blanks', c', ended'⟩ := behind
  dsimp only at hf ⊢
  split
  · rename_i hstop
    rw [if_pos hstop] at hf
    cases hf
    rw [List.append_nil]
  · rename_i hgo
    rw [if_neg hgo] at hf
    rw [hf]

theorem Reads.body_eq (h : Reads indent c text last ended) (hw : WordAt c.rest) {fuel : Nat}
    (hf : c.rest.length ≤ fuel) (blanks : List Char) (lineEnded : Bool) :
    body false indent (fuel + 1) blanks lineEnded c = (blanks ++ text, last, ended) := by
  obtain ⟨tail, rfl, hfinish⟩ := h
  rw [body_of_finish hw (hfinish fuel hf), List.append_assoc]

theorem body_cons (h : WordAt c.rest) {fuel : Nat} {blanks : List Char} {lineEnded : Bool}
    (hb : body false indent (fuel + 1) blanks lineEnded c = (text, last, ended)) :
    body false indent (fuel + 1) (ch :: blanks) lineEnded c = (ch :: text, last, ended) := by
  rcases hf : finish indent fuel (c.forward (word false c.rest).length) with ⟨tail, last', ended'⟩
  rw [body_of_finish h hf] at hb ⊢
  cases hb
  rfl

theorem Reads.scan_eq (h : Reads indent c text last ended) (hw : WordAt c.rest) :
    scan false indent c = (text, last, ended) := h.body_eq hw (Nat.le_refl _) [] false

/-! ### Characters of words -/

theorem Reads.char (hr : c.rest = ch :: rest) (he : ends false (ch :: rest) = false)
    (h : Reads indent c.step text last ended) : Reads indent c (ch :: text) last ended := by
  obtain ⟨tail, rfl, hfinish⟩ := h
  have hstep : c.step.rest = rest := by rw [step_rest, hr]; rfl
  have hword : word false c.rest = ch :: word false c.step.rest := by
    rw [hr, word, he, hstep]
    rfl
  refine ⟨tail, by rw [hword]; rfl, fun fuel hf => ?_⟩
  rw [hword]
  refine hfinish fuel (Nat.le_trans ?_ hf)
  rw [hstep, hr]
  exact Nat.le_succ _

/-! ### Blanks -/

/-- Blanks in front of a word of the same line. -/
def Spaced (rest : List Char) : Prop :=
  ∃ m more, rest = List.replicate m ' ' ++ more ∧ WordAt more

theorem word_space (rest : List Char) : word false (' ' :: rest) = [] := rfl

theorem gap_blanks (hr : c.rest = List.replicate m ' ' ++ more) (hw : WordAt more) :
    gap c = (List.replicate m ' ', c.forward m, false) := by
  obtain ⟨ch, rest, rfl, hends, -⟩ := hw
  have hch : isBlankOrEnd (some ch) = false := by
    simp only [ends, Bool.or_eq_false_iff] at hends
    exact hends.1.1
  simp only [isBlankOrEnd, Bool.or_eq_false_iff, decide_eq_false_iff_not] at hch
  obtain ⟨⟨hspace, -⟩, hbreak⟩ := hch
  have hspan := span_append (p := (· == ' ')) hr
    (fun x hx => by rw [(List.mem_replicate.1 hx).2]; rfl)
    (fun x hx => by cases hx; simpa using hspace)
  rw [List.length_replicate] at hspan
  have hp : (c.forward m).peek = some ch := by
    rw [peek, forward_rest, hr, List.drop_left' List.length_replicate]
    rfl
  rw [gap, hspan]
  simp [isBreakOrEnd, hp, hbreak]

/-- Behind blanks the scalar goes on, unless it is indented too little. -/
theorem finish_blanks (hr : c.rest = List.replicate (m + 1) ' ' ++ more) (hw : WordAt more)
    (hc : indent ≤ (c.forward (m + 1)).column) (fuel : Nat) :
    finish indent fuel c =
      body false indent fuel (List.replicate (m + 1) ' ') false (c.forward (m + 1)) := by
  have hmark : (c.forward (m + 1)).peek ≠ some '#' := by
    obtain ⟨ch, rest, rfl, -, hch⟩ := hw
    rw [peek, forward_rest, hr, List.drop_left' List.length_replicate]
    exact fun he => hch (Option.some.inj he)
  have hcolumn : ¬ ((c.forward (m + 1)).column : Int) < indent := Int.not_lt.2 hc
  rw [finish, gap_blanks hr hw]
  simp [hmark, hcolumn]

/-- A blank that does not end a line, in front of anything. -/
theorem Reads.space (hr : c.rest = ' ' :: rest) (hs : Spaced rest) (hc : indent ≤ c.column)
    (h : Reads indent c.step text last ended) : Reads indent c (' ' :: text) last ended := by
  obtain ⟨m, more, rfl, hw⟩ := hs
  have hstep : c.step.rest = List.replicate m ' ' ++ more := by rw [step_rest, hr]; rfl
  have hrun : c.rest = List.replicate (m + 1) ' ' ++ more := hr
  have hcolumn : indent ≤ (c.forward (m + 1)).column := by
    rw [forward_replicate hrun]
    push_cast
    omega
  have hword : word false c.rest = [] := by rw [hr, word_space]
  have hlength : c.step.rest.length < c.rest.length := by simp [step_rest, hr]
  refine ⟨' ' :: text, by rw [hword]; rfl, fun fuel hf => ?_⟩
  obtain ⟨fuel, rfl⟩ : ∃ f, fuel = f + 1 := ⟨fuel - 1, by omega⟩
  rw [hword, List.length_nil, forward_zero, finish_blanks hrun hw hcolumn]
  cases m with
  | zero => exact h.body_eq (by rwa [hstep]) (by omega) _ _
  | succ m =>
    -- the blanks behind this one were read as they are
    obtain ⟨tail, htext, hfinish⟩ := h
    have hempty : word false c.step.rest = [] := by rw [hstep]; rfl
    rw [hempty] at htext hfinish
    have htail := hfinish (fuel + 1) (by omega)
    rw [List.length_nil, forward_zero, finish_blanks hstep hw hcolumn] at htail
    rw [htext]
    refine body_cons ?_ htail
    rw [forward_replicate hrun]
    exact hw

/-! ### Line breaks and ends -/

theorem emptyLines_blanks {fuel : Nat} (hr : c.rest = List.replicate m ' ' ++ rest)
    (hf : m < fuel) (hs : ∀ x ∈ rest.head?, x ≠ ' ' ∧ isBreak x = false) :
    emptyLines fuel c = (some [], c.forward m) := by
  induction m generalizing c fuel with
  | zero =>
    obtain ⟨fuel, rfl⟩ := Nat.exists_eq_succ_of_ne_zero (Nat.ne_zero_of_lt hf)
    rw [emptyLines, peek, hr, List.replicate_zero, List.nil_append]
    cases rest with
    | nil => rfl
    | cons x rest =>
      obtain ⟨hx, hb⟩ := hs x rfl
      simp [hx, hb]
  | succ m ih =>
    obtain ⟨fuel, rfl⟩ := Nat.exists_eq_succ_of_ne_zero (Nat.ne_zero_of_lt hf)
    have hp : c.peek = some ' ' := by rw [peek, hr]; rfl
    rw [emptyLines, hp]
    exact ih (by rw [step_rest, hr]; rfl) (Nat.lt_of_succ_lt_succ hf)

/-- A line break with the indentation of the next line is one blank. -/
theorem gap_newline (hr : c.rest = '\n' :: (List.replicate m ' ' ++ rest))
    (hd : c.step.atDocumentMark = false) (hs : ∀ x ∈ rest.head?, x ≠ ' ' ∧ isBreak x = false) :
    gap c = ([' '], c.forward (m + 1), true) := by
  have hp : c.peek = some '\n' := by rw [peek, hr]; rfl
  have hspan : c.span (· == ' ') = ([], c) := by rw [span, hr]; rfl
  have hstep : c.step.rest = List.replicate m ' ' ++ rest := by rw [step_rest, hr]; rfl
  have hfuel : m < c.step.rest.length + 1 := by
    rw [hstep, List.length_append, List.length_replicate]
    omega
  rw [gap, hspan]
  simp only [hp, isBreakOrEnd, show isBreak '\n' = true from rfl, Option.isSome_some, Bool.and_self,
    if_true, lineBreak_newline hr, hd, emptyLines_blanks hstep hfuel hs]
  rfl

theorem word_newline (hr : c.rest = '\n' :: rest) : word false c.rest = [] := by
  rw [hr]
  rfl

/-- A folded line goes on behind its indentation. -/
theorem Reads.fold (hm : 0 < m) (hr : c.rest = '\n' :: (List.replicate m ' ' ++ rest))
    (hw : WordAt rest) (hc : indent ≤ m) (h : Reads indent (c.forward (m + 1)) text last ended) :
    Reads indent c (' ' :: text) last ended := by
  have hd : c.step.atDocumentMark = false := by
    obtain ⟨m, rfl⟩ := Nat.exists_eq_add_of_lt hm
    rw [Nat.zero_add] at hr
    have hspace : c.step.rest = ' ' :: (List.replicate m ' ' ++ rest) := by rw [step_rest, hr]; rfl
    exact atDocumentMark_eq_false hspace (by decide) (by decide)
  have hline := forward_line hr
  obtain ⟨ch, more, rfl, hends, hch⟩ := hw
  have hs : ∀ x ∈ (ch :: more).head?, x ≠ ' ' ∧ isBreak x = false := by
    intro x hx
    cases hx
    simp only [ends, isBlankOrEnd, Bool.or_eq_false_iff, decide_eq_false_iff_not] at hends
    exact ⟨hends.1.1.1.1, hends.1.1.2⟩
  have hlength : (c.forward (m + 1)).rest.length < c.rest.length := by
    rw [hline, hr]
    simp only [List.length_cons, List.length_append, List.length_replicate]
    omega
  have hword := word_newline hr
  refine ⟨' ' :: text, by rw [hword]; rfl, fun fuel hf => ?_⟩
  obtain ⟨fuel, rfl⟩ : ∃ f, fuel = f + 1 := ⟨fuel - 1, by omega⟩
  have hmark : (c.forward (m + 1)).peek ≠ some '#' := by
    rw [hline]
    exact fun he => hch (Option.some.inj he)
  have hcolumn : ¬ ((c.forward (m + 1)).column : Int) < indent := by
    rw [hline]
    exact Int.not_lt.2 hc
  rw [hword, List.length_nil, forward_zero, finish, gap_newline hr hd hs]
  simp only [hmark, hcolumn, decide_false, Bool.and_false, Bool.or_false]
  exact h.body_eq (by rw [hline]; exact ⟨ch, more, rfl, hends, hch⟩) (by omega) [' '] true

/-- A scalar ends in front of the colon behind a key. -/
theorem Reads.atColon (hr : c.rest = ':' :: rest) (hb : isBlankOrEnd rest.head? = true) :
    Reads indent c [] c false := by
  have hword : word false c.rest = [] := by
    rw [hr, word, ends, hb]
    rfl
  have hp : c.peek = some ':' := by rw [peek, hr]; rfl
  have hspan : c.span (· == ' ') = ([], c) := by rw [span, hr]; rfl
  refine ⟨[], by rw [hword]; rfl, fun fuel hf => ?_⟩
  rw [hword, List.length_nil, forward_zero, finish, gap, hspan]
  simp [hp, isBreakOrEnd, isBreak]

/-- A scalar ends in front of a line that is indented less. -/
theorem Reads.atLineEnd (hr : c.rest = '\n' :: (List.replicate m ' ' ++ rest))
    (hd : c.step.atDocumentMark = false) (hs : ∀ x ∈ rest.head?, x ≠ ' ' ∧ isBreak x = false)
    (hm : m < indent) : Reads indent c [] (c.forward (m + 1)) true := by
  have hword := word_newline hr
  have hcolumn : ((c.forward (m + 1)).column : Int) < indent := by
    rw [forward_line hr]
    exact hm
  refine ⟨[], by rw [hword]; rfl, fun fuel hf => ?_⟩
  rw [hword, List.length_nil, forward_zero, finish, gap_newline hr hd hs]
  simp [hcolumn]

end ScenarioCompiler.Yaml.Plain
