import ScenarioCompiler.Proofs.Yaml.Plain

namespace ScenarioCompiler.Yaml.Plain

open Cursor Writer

variable {p : Place} {indent : Int} {c : Cursor} {ch : Char} {text tail : List Char}
  {column k : Nat} {afterSpace ended : Bool}

/-- How the next character is written: a blank may be folded. -/
theorem plainChars_cons (p : Place) (column : Nat) (afterSpace : Bool) (ch : Char)
    (text : List Char) :
    let written := plainChars p column afterSpace (ch :: text)
    (p.split = true ∧ ch = ' ' ∧ afterSpace = false ∧ text.head? ≠ some ' ' ∧
        written = newLine p.indent ++ plainChars p p.indent true text) ∨
      written = ch :: plainChars p (column + 1) (ch = ' ') text := by
  intro written
  by_cases hfold : (ch = ' ' && !afterSpace && text.head? != some ' ' && width < column &&
      p.split) = true
  · have hw : written = newLine p.indent ++ plainChars p p.indent true text := by
      simp only [written, plainChars, hfold, if_true]
    simp only [Bool.and_eq_true, decide_eq_true_eq, bne_iff_ne, Bool.not_eq_true'] at hfold
    obtain ⟨⟨⟨⟨hs, hafter⟩, hnext⟩, -⟩, hsplit⟩ := hfold
    exact .inl ⟨hsplit, hs, hafter, hnext, hw⟩
  · exact .inr (by simp only [written, plainChars, hfold]; rfl)

theorem plainChars_cons_word (hs : ch ≠ ' ') (p : Place) (column : Nat) (afterSpace : Bool)
    (text : List Char) : plainChars p column afterSpace (ch :: text) =
      ch :: plainChars p (column + 1) false text := by
  rcases plainChars_cons p column afterSpace ch text with ⟨-, h, -⟩ | h
  · exact absurd h hs
  · rw [h, decide_eq_false hs]

/-- A plain scalar goes on with a character that is no blank; a colon has a word behind it. -/
theorem ends_plainChars (hi : IsInline ch) (hs : ch ≠ ' ')
    (hcolon : ch = ':' → isBlankOrEnd text.head? = false) (p : Place) (column : Nat)
    (afterSpace : Bool) (tail : List Char) :
    ends false (ch :: (plainChars p column afterSpace text ++ tail)) = false := by
  have hblank : isBlankOrEnd (some ch) = false :=
    Bool.eq_false_iff.2 fun h => hs ((isBlankOrEnd_iff hi).1 h)
  by_cases hc : ch = ':'
  · have hn := hcolon hc
    cases text with
    | nil => exact absurd hn (by decide)
    | cons y text =>
      have hy : y ≠ ' ' := by
        rintro rfl
        exact Bool.noConfusion hn
      rw [plainChars_cons_word hy]
      simp only [List.head?_cons] at hn
      simp [ends, hblank, hn]
  · simp [ends, hblank, hc]

/-- What a text has to be for a plain scalar to go on with it. -/
theorem continuesPlain_cons (h : continuesPlain afterSpace (ch :: text) = true) :
    ch ≠ '\n' ∧ (ch = ':' → isBlankOrEnd text.head? = false) ∧ (ch = '#' → afterSpace = false) ∧
      continuesPlain (ch = ' ') text = true := by
  simp only [continuesPlain, Bool.and_eq_true, bne_iff_ne, Bool.not_eq_true', Bool.and_eq_false_iff,
    decide_eq_false_iff_not] at h
  obtain ⟨⟨⟨hn, hcolon⟩, hmark⟩, hc⟩ := h
  exact ⟨hn, fun he => hcolon.resolve_left (fun h => h he),
    fun he => hmark.resolve_left (fun h => h he), hc⟩

/-- Behind a blank a text goes on with a word unless it has another blank there. -/
theorem wordAt_plainChars (ho : ∀ x ∈ text, isOrdinary x = true)
    (hc : continuesPlain true text = true) (hs : text.head? ≠ some ' ') (p : Place) (column : Nat)
    (tail : List Char) : WordAt (plainChars p column true text ++ tail) := by
  cases text with
  | nil => exact absurd hc (by decide)
  | cons ch text =>
    obtain ⟨hn, hcolon, hmark, -⟩ := continuesPlain_cons hc
    have hs : ch ≠ ' ' := fun h => hs (h ▸ rfl)
    have hi := isInline_of_isOrdinary (ho ch List.mem_cons_self) hn
    rw [plainChars_cons_word hs]
    exact ⟨ch, _, rfl, ends_plainChars hi hs hcolon p _ _ _, fun h => Bool.noConfusion (hmark h)⟩

theorem spaced_plainChars (ho : ∀ x ∈ text, isOrdinary x = true)
    (hc : continuesPlain true text = true) (p : Place) (column : Nat) (tail : List Char) :
    Spaced (plainChars p column true text ++ tail) := by
  induction text generalizing column with
  | nil => exact absurd hc (by decide)
  | cons ch text ih =>
    by_cases hs : ch = ' '
    · subst hs
      have hc' := (continuesPlain_cons hc).2.2.2
      rcases plainChars_cons p column true ' ' text with ⟨-, -, h, -⟩ | h
      · exact Bool.noConfusion h
      · obtain ⟨m, more, he, hw⟩ :=
          ih (fun x hx => ho x (List.mem_cons_of_mem _ hx)) hc' (column + 1)
        refine ⟨m + 1, more, ?_, hw⟩
        rw [h, List.cons_append]
        exact congrArg _ he
    · exact ⟨0, _, rfl, wordAt_plainChars ho hc (fun h => hs (Option.some.inj h)) p column tail⟩

/-- Plain text is read as it was before it was written, up to an end that is read as nothing. -/
theorem reads_plainChars (hp : 0 < p.indent) (hpi : indent ≤ p.indent)
    (hend : ∀ c : Cursor, c.rest = tail → Reads indent c [] (c.forward k) ended) (text : List Char)
    (ho : ∀ x ∈ text, isOrdinary x = true) (hc : continuesPlain afterSpace text = true)
    (hcolumn : indent ≤ c.column) (hr : c.rest = plainChars p column afterSpace text ++ tail) :
    Reads indent c text (c.forward ((plainChars p column afterSpace text).length + k)) ended := by
  induction text generalizing column afterSpace c with
  | nil =>
    have hnil : (plainChars p column afterSpace []).length + k = k := Nat.zero_add k
    rw [hnil]
    exact hend c hr
  | cons ch text ih =>
    have ho' : ∀ x ∈ text, isOrdinary x = true := fun x hx => ho x (List.mem_cons_of_mem _ hx)
    obtain ⟨hn, hcolon, -, hc'⟩ := continuesPlain_cons hc
    have hi := isInline_of_isOrdinary (ho ch List.mem_cons_self) hn
    -- a blank between two words may be written as the end of a line
    rcases plainChars_cons p column afterSpace ch text with ⟨-, rfl, -, hs, hw⟩ | hw
    · rw [hw, newLine, List.append_assoc, List.cons_append] at hr
      have hline := forward_line hr
      have hcol' : indent ≤ (c.forward (p.indent + 1)).column := by rwa [hline]
      have hrest : (c.forward (p.indent + 1)).rest = plainChars p p.indent true text ++ tail := by
        rw [hline]
      have htail := ih ho' hc' hcol' hrest
      rw [hw, List.length_append, newLine, List.length_cons, List.length_replicate, Nat.add_assoc,
        forward_add]
      exact Reads.fold hp hr (wordAt_plainChars ho' hc' hs p _ tail) hpi htail
    · rw [hw] at hr ⊢
      have hcol' : indent ≤ c.step.column := by
        rw [column_step hr hi]
        push_cast
        omega
      have htail := ih ho' hc' hcol' (by rw [step_rest, hr]; rfl)
      rw [List.length_cons, Nat.succ_add, forward_succ]
      by_cases hs : ch = ' '
      · subst hs
        exact htail.space hr (spaced_plainChars ho' hc' p _ tail) hcolumn
      · exact htail.char hr (ends_plainChars hi hs hcolon p _ _ tail)

/-- A text that a plain scalar may begin with begins with a word. -/
theorem beginsPlain_cons (h : beginsPlain (ch :: text) = true) :
    ch ∉ "#,[]\x7b\x7d&*!|>'\"%@` \n".toList ∧
      (ch = '-' ∨ ch = '?' ∨ ch = ':' → isBlankOrEnd text.head? = false) ∧
      "---".toList.isPrefixOf (ch :: text) = false ∧
      "...".toList.isPrefixOf (ch :: text) = false := by
  simp only [beginsPlain, Bool.and_eq_true, Bool.not_eq_true', Bool.and_eq_false_iff,
    Bool.or_eq_false_iff, decide_eq_false_iff_not, List.contains_eq_mem] at h
  obtain ⟨⟨⟨hfirst, hsign⟩, hdash⟩, hdot⟩ := h
  refine ⟨hfirst, fun hs => hsign.resolve_left fun h => ?_, hdash, hdot⟩
  rcases hs with hs | hs | hs
  · exact h.1.1 hs
  · exact h.1.2 hs
  · exact h.2 hs

/-- A plain scalar is read as the text that it was written for. -/
theorem scan_plainChars (hp : 0 < p.indent) (hpi : indent ≤ p.indent)
    (hend : ∀ c : Cursor, c.rest = tail → Reads indent c [] (c.forward k) ended)
    (ha : allowsPlain text = true) (hcolumn : indent ≤ c.column + 1)
    (hr : c.rest = plainChars p column false text ++ tail) :
    scan false indent c =
      (text, c.forward ((plainChars p column false text).length + k), ended) := by
  simp only [allowsPlain, Bool.and_eq_true, List.all_eq_true] at ha
  obtain ⟨⟨ho, hb⟩, hc⟩ := ha
  cases text with
  | nil => exact absurd hb (by decide)
  | cons ch text =>
    obtain ⟨hfirst, -⟩ := beginsPlain_cons hb
    obtain ⟨hn, hcolon, -, hc'⟩ := continuesPlain_cons hc
    have hi := isInline_of_isOrdinary (ho ch List.mem_cons_self) hn
    have hs : ch ≠ ' ' := by
      rintro rfl
      exact hfirst (by decide)
    have hmark : ch ≠ '#' := by
      rintro rfl
      exact hfirst (by decide)
    have hw := plainChars_cons_word hs p column false text
    rw [hw] at hr ⊢
    have hends := ends_plainChars hi hs hcolon p (column + 1) false tail
    have hcol' : indent ≤ c.step.column := by
      rw [column_step hr hi]
      exact_mod_cast hcolumn
    rw [decide_eq_false hs] at hc'
    have htail := reads_plainChars hp hpi hend text
      (fun x hx => ho x (List.mem_cons_of_mem _ hx)) hc'
      hcol' (by rw [step_rest, hr]; rfl)
    rw [List.length_cons, Nat.succ_add, forward_succ]
    refine (htail.char hr hends).scan_eq ?_
    rw [hr]
    exact ⟨ch, _, rfl, hends, hmark⟩

end ScenarioCompiler.Yaml.Plain
