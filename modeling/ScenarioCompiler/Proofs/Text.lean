import Mathlib.Data.List.Basic
import Mathlib.Data.List.TakeWhile
import ScenarioCompiler.Text.Blank
import ScenarioCompiler.Text.Search

namespace ScenarioCompiler.Text

variable {p q : Char → Bool} {cs front back : List Char}

/-! ### Ends of texts -/

/-- A text that is not empty and neither begins nor ends with a character that has the property. -/
structure Trimmed (p : Char → Bool) (cs : List Char) : Prop where
  ne_nil : cs ≠ []
  head : ∀ c ∈ cs.head?, p c = false
  last : ∀ c ∈ cs.getLast?, p c = false

theorem Trimmed.mono (h : Trimmed p cs) (hq : ∀ c, p c = false → q c = false) : Trimmed q cs :=
  ⟨h.ne_nil, fun c hc => hq c (h.head c hc), fun c hc => hq c (h.last c hc)⟩

/-- More characters without the property may stand at the ends. -/
theorem Trimmed.surround (h : Trimmed p cs) (hf : ∀ c ∈ front, p c = false)
    (hb : ∀ c ∈ back, p c = false) : Trimmed p (front ++ (cs ++ back)) where
  ne_nil := by simp [h.ne_nil]
  head c hc := by
    rw [List.head?_append, Option.mem_def, Option.or_eq_some_iff] at hc
    rcases hc with hc | ⟨-, hc⟩
    · exact hf c (List.mem_of_mem_head? hc)
    · rw [List.head?_append_of_ne_nil _ h.ne_nil] at hc
      exact h.head c hc
  last c hc := by
    rw [List.getLast?_append_of_ne_nil _ (by simp [h.ne_nil]), List.getLast?_append,
      Option.mem_def, Option.or_eq_some_iff] at hc
    rcases hc with hc | ⟨-, hc⟩
    · exact hb c (List.mem_of_getLast? hc)
    · exact h.last c hc

/-- What is trimmed away is what stands around a trimmed text. -/
theorem trimBoth_surround (h : Trimmed p cs) (hf : ∀ c ∈ front, p c = true)
    (hb : ∀ c ∈ back, p c = true) : trimBoth p (front ++ (cs ++ back)) = cs := by
  have hstop {ys : List Char} (zs : List Char) (hne : ys ≠ []) (hy : ∀ c ∈ ys.head?, p c = false) :
      (ys ++ zs).dropWhile p = ys ++ zs := by
    obtain ⟨y, ys, rfl⟩ := List.exists_cons_of_ne_nil hne
    rw [List.cons_append, List.dropWhile_cons_of_neg (by simp [hy y rfl])]
  have hreverse : cs.reverse.dropWhile p = cs.reverse := by
    have := hstop [] (List.reverse_ne_nil_iff.2 h.ne_nil) (by simpa using h.last)
    rwa [List.append_nil] at this
  rw [trimBoth, List.dropWhile_append_of_pos hf, hstop back h.ne_nil h.head, List.reverse_append,
    List.dropWhile_append_of_pos (by simpa using hb), hreverse, List.reverse_reverse]

theorem Trimmed.trimBoth_eq (h : Trimmed p cs) : trimBoth p cs = cs := by
  simpa using @trimBoth_surround p cs [] [] h (by simp) (by simp)

theorem trimBoth_of_forall (h : ∀ c ∈ cs, p c = false) : trimBoth p cs = cs := by
  cases cs with
  | nil => rfl
  | cons c cs =>
    have ht : Trimmed p (c :: cs) := ⟨List.cons_ne_nil _ _,
      fun x hx => h x (List.mem_of_mem_head? hx), fun x hx => h x (List.mem_of_getLast? hx)⟩
    exact ht.trimBoth_eq

/-! ### Pieces between separators -/

theorem consFirst_of_ne_nil {c : Char} {pieces : List (List Char)} (h : pieces ≠ []) :
    consFirst c pieces = pieces.modifyHead (c :: ·) := by
  obtain ⟨piece, pieces, rfl⟩ := List.exists_cons_of_ne_nil h
  rfl

/-- For a separator of one character the pieces are those of the library. -/
theorem splitAll_singleton (c : Char) (text : List Char) : splitAll [c] text = text.splitOn c := by
  induction text with
  | nil => rfl
  | cons x text ih =>
    have hprefix : [c].isPrefixOf (x :: text) = (x == c) := by
      rw [List.isPrefixOf_cons_cons, List.isPrefixOf_nil_left, Bool.and_true, BEq.comm]
    rw [splitAll] at ih
    rw [List.splitOn, List.splitOnP_cons_eq_if_modifyHead, splitAll, splitFrom, hprefix]
    split
    · exact congrArg ([] :: ·) ih
    · rw [ih]
      exact consFirst_of_ne_nil (List.splitOnP_ne_nil _ text)

/-- Pieces without the separator are found again in the text that joins them. -/
theorem splitAll_intercalate {c : Char} {pieces : List (List Char)}
    (h : ∀ piece ∈ pieces, c ∉ piece) (hne : pieces ≠ []) :
    splitAll [c] ([c].intercalate pieces) = pieces := by
  rw [splitAll_singleton, List.splitOn_intercalate c h hne]

end ScenarioCompiler.Text
