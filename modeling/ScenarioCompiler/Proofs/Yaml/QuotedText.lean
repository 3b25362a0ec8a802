import ScenarioCompiler.Proofs.Yaml.Quoted

namespace ScenarioCompiler.Yaml.Quoted

open Cursor Writer

variable {double : Bool} {p : Place} {c : Cursor} {ch : Char}
  {text tail more : List Char} {column n n' : Nat} {afterEscape first : Bool}
  {before : Option Char}

theorem Reads.cast (h : Reads double c text n) (hn : n = n') : Reads double c text n' := hn ▸ h

theorem Spaced.exists_cons {rest : List Char} (h : Spaced rest) (hn : rest.head? ≠ some ' ') :
    ∃ ch more, rest = ch :: more ∧ IsInline ch ∧ ch ≠ ' ' := by
  obtain ⟨m, ch, more, rfl, hch⟩ := h
  cases m with
  | zero => exact ⟨ch, more, rfl, hch⟩
  | succ m => exact absurd rfl hn

theorem isInline_of_not_needsEscape (h : needsEscape ch = false) :
    IsInline ch ∧ ch ≠ '"' ∧ ch ≠ '\\' := by
  simpa [needsEscape, IsInline, and_assoc, and_comm, and_left_comm] using h

/-! ### Quotation marks -/

theorem length_softBreak (p : Place) (next : Option Char) : (softBreak p next).length =
    p.indent + 1 + 1 + if next = some ' ' then 1 else 0 := by
  simp only [softBreak, newLine]
  split <;> simp

/-- A line may end in front of anything but a blank. -/
theorem Reads.behindBreak (hp : 0 < p.indent) {next : Option Char} (hn : next ≠ some ' ')
    (hr : c.rest = softBreak p next ++ ch :: more) (hi : IsInline ch) (hb : ch ≠ ' ')
    (h : Reads true (c.forward (softBreak p next).length) text n) :
    Reads true c text ((softBreak p next).length + n) := by
  have hrest : c.rest = '\\' :: '\n' :: (List.replicate p.indent ' ' ++ ch :: more) := by
    rw [hr, softBreak, if_neg hn, newLine]
    simp
  rw [length_softBreak, if_neg hn] at h ⊢
  refine Reads.escape [] hrest (by simp) (fun fuel hf => ?_) h
  exact escape_softBreak hp (by rw [step_rest, hrest]; rfl) hi hb hf

/-- In front of a blank a line ends with the blank behind a backslash. -/
theorem Reads.blankBehindBreak (hp : 0 < p.indent)
    (hr : c.rest = softBreak p (some ' ') ++ ' ' :: more)
    (h : Reads true (c.forward ((softBreak p (some ' ')).length + 1)) text n) :
    Reads true c (' ' :: text) ((softBreak p (some ' ')).length + 1 + n) := by
  have hrest : c.rest = '\\' :: '\n' :: (List.replicate p.indent ' ' ++ '\\' :: ' ' :: more) := by
    rw [hr, softBreak, if_pos rfl, newLine]
    simp
  have hmark : (c.forward (p.indent + 1 + 1)).rest = '\\' :: ' ' :: more := by
    have hsplit : c.rest = ('\\' :: '\n' :: List.replicate p.indent ' ') ++ '\\' :: ' ' :: more :=
      hrest
    simpa using forward_rest_append _ hsplit
  rw [length_softBreak, if_pos rfl] at h ⊢
  have hspace : Reads true (c.forward (p.indent + 1 + 1)) (' ' :: text) (1 + 1 + n) := by
    refine Reads.escape [' '] hmark (by simp) (fun fuel _ => ?_) ?_
    · have hpeek : (c.forward (p.indent + 1 + 1)).step.peek = some ' ' := by
        rw [peek, step_rest, hmark]
        rfl
      rw [Quoted.escape, hpeek]
      rfl
    · rwa [← forward_add]
  refine Reads.cast (Reads.escape [] hrest (by simp) (fun fuel hf => ?_) hspace)
    (by omega)
  exact escape_softBreak hp (by rw [step_rest, hrest]; rfl) (by decide) (by decide) hf

/-- How the next character is written: escaped or not, with a line end behind it or in front of it
or without one. -/
theorem doubleChars_cons (p : Place) (column : Nat) (afterEscape first : Bool) (ch : Char)
    (text : List Char) :
    let written := doubleChars p column afterEscape first (ch :: text)
    (needsEscape ch = true ∧ p.split = true ∧ written =
        Writer.escape ch ++ (softBreak p text.head? ++
          doubleChars p (columnAfterBreak p text.head?) true false text)) ∨
      (needsEscape ch = true ∧
        ∃ column, written = Writer.escape ch ++ doubleChars p column true false text) ∨
      (needsEscape ch = false ∧ p.split = true ∧ ∃ column,
        written = softBreak p (some ch) ++ ch :: doubleChars p column false false text) ∨
      (needsEscape ch = false ∧
        ∃ column, written = ch :: doubleChars p column false false text) := by
  intro written
  cases he : needsEscape ch with
  | true =>
    by_cases hsoft : (!first && !text.isEmpty && p.split &&
        decide (width < column + (Writer.escape ch).length - 1)) = true
    · have hw : written = Writer.escape ch ++ (softBreak p text.head? ++
          doubleChars p (columnAfterBreak p text.head?) true false text) := by
        simp only [written, doubleChars, he, if_true, hsoft, List.append_assoc]
      simp only [Bool.and_eq_true] at hsoft
      exact .inl ⟨rfl, hsoft.1.2, hw⟩
    · exact .inr (.inl ⟨rfl, _, by simp only [written, doubleChars, he, if_true, hsoft]; rfl⟩)
  | false =>
    by_cases hsoft : (!first && !text.isEmpty && p.split && (decide (ch = ' ') || afterEscape) &&
        decide (width < column)) = true
    · have hw : written = softBreak p (some ch) ++
          ch :: doubleChars p (columnAfterBreak p (some ch) + 1) false false text := by
        simp only [written, doubleChars, he, hsoft]
        rfl
      simp only [Bool.and_eq_true] at hsoft
      exact .inr (.inr (.inl ⟨rfl, hsoft.1.1.2, _, hw⟩))
    · exact .inr (.inr (.inr ⟨rfl, _, by simp only [written, doubleChars, he, hsoft]; rfl⟩))

theorem spaced_backslash (more : List Char) : Spaced ('\\' :: more) :=
  spaced_cons (by decide) fun h => absurd h (by decide)

/-- Between quotation marks no blank stands at the end of a line. -/
theorem spaced_doubleChars (p : Place) (text : List Char) (column : Nat) (afterEscape first : Bool)
    (tail : List Char) :
    Spaced (doubleChars p column afterEscape first text ++ '"' :: tail) := by
  induction text generalizing column afterEscape first with
  | nil => exact spaced_cons (by decide) fun h => absurd h (by decide)
  | cons ch text ih =>
    obtain ⟨signs, hs, -, -⟩ := escape_written ch
    rcases doubleChars_cons p column afterEscape first ch text with
      ⟨-, -, hw⟩ | ⟨-, _, hw⟩ | ⟨-, -, _, hw⟩ | ⟨he, _, hw⟩
    · rw [hw, hs]
      exact spaced_backslash _
    · rw [hw, hs]
      exact spaced_backslash _
    · rw [hw]
      exact spaced_backslash _
    · rw [hw]
      exact spaced_cons (isInline_of_not_needsEscape he).1 fun _ => ih _ _ _

theorem head_doubleChars (h : text.head? ≠ some ' ') (column : Nat) (afterEscape first : Bool)
    (tail : List Char) :
    (doubleChars p column afterEscape first text ++ '"' :: tail).head? ≠ some ' ' := by
  cases text with
  | nil => exact fun he => absurd (Option.some.inj he) (by decide)
  | cons ch text =>
    have backslash (more : List Char) : ('\\' :: more).head? ≠ some ' ' :=
      fun he => absurd (Option.some.inj he) (by decide)
    obtain ⟨signs, hs, -, -⟩ := escape_written ch
    rcases doubleChars_cons p column afterEscape first ch text with
      ⟨-, -, hw⟩ | ⟨-, _, hw⟩ | ⟨-, -, _, hw⟩ | ⟨-, _, hw⟩
    · rw [hw, hs]
      exact backslash _
    · rw [hw, hs]
      exact backslash _
    · rw [hw]
      exact backslash _
    · rw [hw]
      exact h

theorem doubleChars_space (p : Place) (hc : column ≤ width) :
    doubleChars p column afterEscape first (' ' :: text) =
      ' ' :: doubleChars p (column + 1) false false text := by
  have hn : needsEscape ' ' = false := by decide
  have hw : decide (width < column) = false := decide_eq_false (Nat.not_lt.2 hc)
  simp only [doubleChars, hn, hw, Bool.and_false]
  rfl

/-- A character that is written as it is. -/
theorem Reads.plain {rest : List Char} (he : needsEscape ch = false) (hs : Spaced rest)
    (hr : c.rest = ch :: rest) (h : Reads true c.step text n) :
    Reads true c (ch :: text) (1 + n) := by
  obtain ⟨hi, hq, hb⟩ := isInline_of_not_needsEscape he
  by_cases hspace : ch = ' '
  · subst hspace
    exact (h.space hr hs).cast (Nat.add_comm _ _)
  · exact h.char hr hi hspace hq fun _ => hb

/-- A character that is written behind a backslash. -/
theorem Reads.escaped {rest : List Char} (hr : c.rest = Writer.escape ch ++ rest)
    (h : Reads true (c.forward (Writer.escape ch).length) text n) :
    Reads true c (ch :: text) ((Writer.escape ch).length + n) := by
  obtain ⟨signs, hs, -, hread⟩ := escape_written ch
  rw [hs] at hr
  rw [hs, List.length_cons] at h ⊢
  refine Reads.escape [ch] hr (by simp) (fun fuel _ => ?_) h
  exact hread c.step rest fuel (by rw [step_rest, hr]; rfl)

/-- The text is read wherever it is written in front of a quotation mark and the tail. -/
def ReadBack (p : Place) (tail text : List Char) : Prop :=
  ∀ (c : Cursor) (column : Nat) (afterEscape first : Bool),
    c.rest = doubleChars p column afterEscape first text ++ '"' :: tail →
      Reads true c text ((doubleChars p column afterEscape first text).length + 1)

/-- A line may end in front of the text. -/
theorem ReadBack.behindBreak (hp : 0 < p.indent) (hw : p.indent < width)
    (h : ReadBack p tail text) (htail : ReadBack p tail text.tail)
    (hr : c.rest = softBreak p text.head? ++
      (doubleChars p (columnAfterBreak p text.head?) true false text ++ '"' :: tail)) :
    Reads true c text ((softBreak p text.head?).length +
      ((doubleChars p (columnAfterBreak p text.head?) true false text).length + 1)) := by
  by_cases hspace : text.head? = some ' '
  · -- the blank belongs to the line end, so the text goes on behind it
    obtain ⟨more, rfl⟩ := List.head?_eq_some_iff.1 hspace
    have hcolumn : p.indent + 1 ≤ width := hw
    rw [hspace, columnAfterBreak, if_pos rfl, doubleChars_space p hcolumn] at hr ⊢
    have hread := htail _ _ _ _ (forward_rest_cons hr)
    exact (hread.blankBehindBreak hp hr).cast (by simp; omega)
  · obtain ⟨x, more, hx, hi, hb⟩ :=
      (spaced_doubleChars p text (columnAfterBreak p text.head?) true false tail).exists_cons
        (head_doubleChars hspace _ _ _ _)
    have hread := h _ _ _ _ (forward_rest_append _ hr)
    rw [hx] at hr
    exact hread.behindBreak hp hspace hr hi hb

theorem ReadBack.cons (hp : 0 < p.indent) (hw : p.indent < width) (h : ReadBack p tail text)
    (htail : ReadBack p tail text.tail) (ch : Char) : ReadBack p tail (ch :: text) := by
  intro c column afterEscape first hr
  rcases doubleChars_cons p column afterEscape first ch text with
    ⟨-, -, hwritten⟩ | ⟨-, _, hwritten⟩ | ⟨he, -, _, hwritten⟩ | ⟨he, _, hwritten⟩
  · rw [hwritten, List.append_assoc, List.append_assoc] at hr
    rw [hwritten, List.length_append, List.length_append, Nat.add_assoc, Nat.add_assoc]
    exact Reads.escaped hr (h.behindBreak hp hw htail (forward_rest_append _ hr))
  · rw [hwritten, List.append_assoc] at hr
    rw [hwritten, List.length_append, Nat.add_assoc]
    exact Reads.escaped hr (h _ _ _ _ (forward_rest_append _ hr))
  · rw [hwritten, List.append_assoc] at hr
    rw [hwritten, List.length_append, List.length_cons]
    by_cases hspace : ch = ' '
    · subst hspace
      have hread := h _ _ _ _ (forward_rest_cons hr)
      exact (hread.blankBehindBreak hp hr).cast (by omega)
    · have hi := (isInline_of_not_needsEscape he).1
      have hch := forward_rest_append _ hr
      have hread := Reads.plain he (spaced_doubleChars p text _ _ _ _) hch
        (h _ _ _ _ (by rw [step_rest, hch]; rfl))
      have hnext : some ch ≠ some ' ' := fun h => hspace (Option.some.inj h)
      exact (hread.behindBreak hp hnext hr hi hspace).cast (by omega)
  · rw [hwritten] at hr ⊢
    have hread := h _ _ _ _ (by rw [step_rest, hr]; rfl)
    exact (Reads.plain he (spaced_doubleChars p text _ _ _ _) hr hread).cast
      (by rw [List.length_cons]; omega)

-- a line end takes a blank along, so the induction carries the text behind the first character too
theorem readBack (hp : 0 < p.indent) (hw : p.indent < width) (text : List Char) :
    ReadBack p tail text ∧ ReadBack p tail text.tail := by
  induction text with
  | nil =>
    have hclose : ReadBack p tail [] := fun _ _ _ _ hr => Reads.close hr (by simp)
    exact ⟨hclose, hclose⟩
  | cons ch text ih => exact ⟨.cons hp hw ih.1 ih.2 ch, ih.1⟩

/-- Text between quotation marks is read as it was before it was written. The bound on the
indentation keeps room for the blank behind a line end. -/
theorem reads_doubleChars (hp : 0 < p.indent) (hw : p.indent < width) (text : List Char)
    (hr : c.rest = doubleChars p column afterEscape first text ++ '"' :: tail) :
    Reads true c text ((doubleChars p column afterEscape first text).length + 1) :=
  (readBack hp hw text).1 c column afterEscape first hr

/-! ### Apostrophes -/

/-- How the next character is written: doubled, as one or two line breaks, as a folded line, or as
it is. -/
theorem singleChars_cons (p : Place) (column : Nat) (before : Option Char) (ch : Char)
    (text : List Char) :
    let written := singleChars p column before (ch :: text)
    (ch = '\'' ∧ ∃ column, written = '\'' :: '\'' :: singleChars p column (some ch) text) ∨
      (ch = '\n' ∧ written = (if before = some '\n' then ['\n'] else ['\n', '\n']) ++
        ((if text.head? = some '\n' then [] else List.replicate p.indent ' ') ++
          singleChars p p.indent (some ch) text)) ∨
      (ch = ' ' ∧ before ≠ some ' ' ∧ text.head? ≠ some ' ' ∧ p.split = true ∧
        written = newLine p.indent ++ singleChars p p.indent (some ch) text) ∨
      (ch ≠ '\'' ∧ ch ≠ '\n' ∧
        written = ch :: singleChars p (column + 1) (some ch) text) := by
  intro written
  by_cases hq : ch = '\''
  · exact .inl ⟨hq, column + 2, by simp only [written, singleChars, hq, if_true]⟩
  by_cases hl : ch = '\n'
  · refine .inr (.inl ⟨hl, ?_⟩)
    simp only [written, singleChars, hl, if_true, List.append_assoc]
    rfl
  by_cases hfold : (ch = ' ' && before.isSome && before != some ' ' && !text.isEmpty &&
      text.head? != some ' ' && width < column && p.split) = true
  · have hw : written = newLine p.indent ++ singleChars p p.indent (some ch) text := by
      simp only [written, singleChars, hq, hl, hfold, if_false, if_true]
    simp only [Bool.and_eq_true, decide_eq_true_eq, bne_iff_ne] at hfold
    obtain ⟨⟨⟨⟨⟨⟨hs, -⟩, hbefore⟩, -⟩, hnext⟩, -⟩, hsplit⟩ := hfold
    exact .inr (.inr (.inl ⟨hs, hbefore, hnext, hsplit, hw⟩))
  · exact .inr (.inr (.inr ⟨hq, hl, by simp only [written, singleChars, hq, hl, hfold]; rfl⟩))

theorem hasSpaceAtBreak_tail (before : Option Char)
    (h : hasSpaceAtBreak (before.toList ++ ch :: text) = false) :
    hasSpaceAtBreak (ch :: text) = false := by
  cases before with
  | none => exact h
  | some b =>
    rw [Option.toList_some, List.singleton_append, hasSpaceAtBreak] at h
    exact (Bool.or_eq_false_iff.1 h).2

theorem ne_newline_of_hasSpaceAtBreak (h : hasSpaceAtBreak (' ' :: ch :: text) = false) :
    ch ≠ '\n' := by
  rintro rfl
  simp [hasSpaceAtBreak] at h

theorem ne_space_of_hasSpaceAtBreak (h : hasSpaceAtBreak ('\n' :: ch :: text) = false) :
    ch ≠ ' ' := by
  rintro rfl
  simp [hasSpaceAtBreak] at h

/-- Behind a blank no line ends before the next word. -/
theorem spaced_singleChars (ho : ∀ x ∈ text, isOrdinary x = true)
    (hb : hasSpaceAtBreak (' ' :: text) = false) (p : Place) (column : Nat) (tail : List Char) :
    Spaced (singleChars p column (some ' ') text ++ '\'' :: tail) := by
  induction text generalizing column with
  | nil => exact spaced_cons (by decide) fun h => absurd h (by decide)
  | cons ch text ih =>
    have hn := ne_newline_of_hasSpaceAtBreak hb
    rcases singleChars_cons p column (some ' ') ch text with
      ⟨-, _, hw⟩ | ⟨hl, -⟩ | ⟨-, hbefore, -⟩ | ⟨-, -, hw⟩
    · rw [hw]
      exact spaced_cons (by decide) fun h => absurd h (by decide)
    · exact absurd hl hn
    · exact absurd rfl hbefore
    · rw [hw]
      refine spaced_cons (isInline_of_isOrdinary (ho ch List.mem_cons_self) hn) ?_
      rintro rfl
      exact ih (fun x hx => ho x (List.mem_cons_of_mem _ hx)) (hasSpaceAtBreak_tail (some ' ') hb) _

/-- A word is written from its first character on. -/
theorem head_singleChars (ho : ∀ x ∈ text, isOrdinary x = true)
    (h : ∀ x ∈ text.head?, x ≠ ' ' ∧ x ≠ '\n') (p : Place) (column : Nat) (before : Option Char)
    (tail : List Char) : ∃ x more,
      singleChars p column before text ++ '\'' :: tail = x :: more ∧ IsInline x ∧ x ≠ ' ' := by
  cases text with
  | nil => exact ⟨'\'', tail, rfl, by decide, by decide⟩
  | cons ch text =>
    obtain ⟨hs, hl⟩ := h ch rfl
    rcases singleChars_cons p column before ch text with
      ⟨-, _, hw⟩ | ⟨hl', -⟩ | ⟨hs', -⟩ | ⟨-, -, hw⟩
    · exact ⟨'\'', _, by rw [hw]; rfl, by decide, by decide⟩
    · exact absurd hl' hl
    · exact absurd hs' hs
    · exact ⟨ch, _, by rw [hw]; rfl, isInline_of_isOrdinary (ho ch List.mem_cons_self) hl, hs⟩

/-- Behind line breaks the text goes on with a word. -/
theorem word_of_newline (hb : hasSpaceAtBreak ('\n' :: text) = false)
    (hn : text.head? ≠ some '\n') : ∀ x ∈ text.head?, x ≠ ' ' ∧ x ≠ '\n' := by
  intro x hx
  obtain ⟨more, rfl⟩ := List.head?_eq_some_iff.1 hx
  exact ⟨ne_space_of_hasSpaceAtBreak hb, fun h => hn (h ▸ rfl)⟩

/-- Behind blanks the text goes on with a word. -/
theorem word_of_space (hb : hasSpaceAtBreak (' ' :: text) = false)
    (hs : text.head? ≠ some ' ') : ∀ x ∈ text.head?, x ≠ ' ' ∧ x ≠ '\n' := by
  intro x hx
  obtain ⟨more, rfl⟩ := List.head?_eq_some_iff.1 hx
  exact ⟨fun h => hs (h ▸ rfl), ne_newline_of_hasSpaceAtBreak hb⟩

/-- The text is read wherever it is written behind the given character, in front of an apostrophe
and the tail. From inside a run of line breaks it is read as empty lines first. -/
def ReadBehind (p : Place) (tail : List Char) (before : Option Char) (text : List Char) : Prop :=
  ∀ (c : Cursor) (column : Nat), c.rest = singleChars p column before text ++ '\'' :: tail →
    if before = some '\n' ∧ text.head? = some '\n' then
      Lines c text ((singleChars p column before text).length + 1)
    else Reads false c text ((singleChars p column before text).length + 1)

theorem ReadBehind.reads (h : ReadBehind p tail before text)
    (hn : ¬ (before = some '\n' ∧ text.head? = some '\n'))
    (hr : c.rest = singleChars p column before text ++ '\'' :: tail) :
    Reads false c text ((singleChars p column before text).length + 1) := by
  have hread := h c column hr
  rwa [if_neg hn] at hread

/-- What is read from behind the first of several line breaks on. -/
theorem ReadBehind.lines (hp : 0 < p.indent) (ho : ∀ x ∈ text, isOrdinary x = true)
    (hb : hasSpaceAtBreak ('\n' :: text) = false) (h : ReadBehind p tail (some '\n') text)
    (hr : c.rest = ((if text.head? = some '\n' then [] else List.replicate p.indent ' ') ++
      singleChars p p.indent (some '\n') text) ++ '\'' :: tail) :
    Lines c text (((if text.head? = some '\n' then [] else List.replicate p.indent ' ') ++
      singleChars p p.indent (some '\n') text).length + 1) := by
  by_cases hn : text.head? = some '\n'
  · rw [if_pos hn, List.nil_append] at hr ⊢
    have hread := h c p.indent hr
    rwa [if_pos ⟨rfl, hn⟩] at hread
  · rw [if_neg hn, List.append_assoc] at hr
    rw [if_neg hn, List.length_append, List.length_replicate]
    have hread := h.reads (fun h => hn h.2) (forward_rest_append _ hr)
    obtain ⟨x, more, hx, hi, hs⟩ :=
      head_singleChars ho (word_of_newline hb hn) p p.indent (some '\n') tail
    rw [List.length_replicate] at hread
    rw [hx] at hr
    rw [Nat.add_assoc]
    exact Lines.indent hp hr hi hs hread

/-- A blank that is written as the end of a line. -/
theorem ReadBehind.fold (hp : 0 < p.indent) (ho : ∀ x ∈ text, isOrdinary x = true)
    (hb : hasSpaceAtBreak (' ' :: text) = false) (hs : text.head? ≠ some ' ')
    (h : ReadBehind p tail (some ' ') text)
    (hr : c.rest = newLine p.indent ++
      (singleChars p p.indent (some ' ') text ++ '\'' :: tail)) :
    Reads false c (' ' :: text) ((newLine p.indent).length +
      ((singleChars p p.indent (some ' ') text).length + 1)) := by
  have hread := h.reads (by simp) (forward_rest_append _ hr)
  obtain ⟨x, more, hx, hi, hxs⟩ :=
    head_singleChars ho (word_of_space hb hs) p p.indent (some ' ') tail
  rw [hx] at hr
  rw [newLine, List.length_cons, List.length_replicate] at hread ⊢
  exact Reads.fold hp hr hi hxs hread

theorem ReadBehind.cons (hp : 0 < p.indent) (ho : ∀ x ∈ ch :: text, isOrdinary x = true)
    (hb : hasSpaceAtBreak (ch :: text) = false) (h : ReadBehind p tail (some ch) text)
    (before : Option Char) : ReadBehind p tail before (ch :: text) := by
  intro c column hr
  have ho' : ∀ x ∈ text, isOrdinary x = true := fun x hx => ho x (List.mem_cons_of_mem _ hx)
  rcases singleChars_cons p column before ch text with
    ⟨rfl, column', hw⟩ | ⟨rfl, hw⟩ | ⟨rfl, -, hs, -, hw⟩ | ⟨hq, hl, hw⟩
  · rw [hw] at hr
    rw [if_neg (by simp), hw]
    have hread := h.reads (c := c.forward 2) (by simp) (forward_rest_append ['\'', '\''] hr)
    exact (hread.apostrophe hr).cast (by simp; omega)
  · rw [hw, List.append_assoc] at hr
    rw [hw, List.length_append]
    by_cases hbefore : before = some '\n'
    · rw [if_pos hbefore] at hr ⊢
      rw [if_pos ⟨hbefore, rfl⟩, List.length_singleton, Nat.add_assoc]
      exact Lines.newline hr (h.lines hp ho' hb (by rw [step_rest, hr]; rfl))
    · rw [if_neg hbefore] at hr ⊢
      rw [if_neg (fun h => hbefore h.1), Nat.add_assoc]
      exact Reads.ofLines hr (h.lines hp ho' hb (forward_rest_append ['\n', '\n'] hr))
  · rw [hw, List.append_assoc] at hr
    rw [if_neg (by simp), hw, List.length_append, Nat.add_assoc]
    exact h.fold hp ho' hb hs hr
  · rw [hw] at hr
    rw [if_neg (fun h => hl (Option.some.inj h.2)), hw]
    have hi := isInline_of_isOrdinary (ho ch List.mem_cons_self) hl
    have hread := h.reads (c := c.step) (fun h => hl (Option.some.inj h.1))
      (by rw [step_rest, hr]; rfl)
    by_cases hs : ch = ' '
    · subst hs
      exact hread.space hr (spaced_singleChars ho' hb p _ tail)
    · have hclosing : ch ≠ closing false := hq
      exact (hread.char hr hi hs hclosing (by simp)).cast (by simp; omega)

theorem readBehind (hp : 0 < p.indent) (ht : tail.head? ≠ some '\'') (text : List Char)
    (ho : ∀ x ∈ text, isOrdinary x = true) (hb : hasSpaceAtBreak (before.toList ++ text) = false) :
    ReadBehind p tail before text := by
  induction text generalizing before with
  | nil =>
    intro c column hr
    rw [if_neg (by simp)]
    exact Reads.close hr fun _ => ht
  | cons ch text ih =>
    have hb' : hasSpaceAtBreak (ch :: text) = false := hasSpaceAtBreak_tail before hb
    have htext : ReadBehind p tail (some ch) text :=
      ih (fun x hx => ho x (List.mem_cons_of_mem _ hx)) hb'
    exact htext.cons hp ho hb' before

/-- Text between apostrophes is read as it was before it was written. -/
theorem reads_singleChars (hp : 0 < p.indent) (ht : tail.head? ≠ some '\'') (text : List Char)
    (ho : ∀ x ∈ text, isOrdinary x = true) (hb : hasSpaceAtBreak text = false)
    (hr : c.rest = singleChars p column none text ++ '\'' :: tail) :
    Reads false c text ((singleChars p column none text).length + 1) := by
  have hread : ReadBehind p tail none text := readBehind hp ht text ho hb
  exact hread.reads (by simp) hr

end ScenarioCompiler.Yaml.Quoted
