import Mathlib.Data.List.Basic
import Mathlib.Data.List.TakeWhile
import ScenarioCompiler.Text.Search

namespace ScenarioCompiler.Text

/-- One pass over a text from the left: a match is replaced as a whole, and a character is kept
only where no match begins. -/
inductive Replaced (pattern replacement : List Char) : List Char → List Char → Prop
  | nil : Replaced pattern replacement [] []
  | hit {text out : List Char} (later : Replaced pattern replacement text out) :
      Replaced pattern replacement (pattern ++ text) (replacement ++ out)
  | keep {c : Char} {text out : List Char} (free : ¬ pattern <+: c :: text)
      (later : Replaced pattern replacement text out) :
      Replaced pattern replacement (c :: text) (c :: out)

variable {pattern replacement text out front : List Char} {c : Char}

theorem replaceFrom_length (front text : List Char) :
    replaceFrom pattern replacement front.length (front ++ text) =
      replaceFrom pattern replacement 0 text := by
  induction front with
  | nil => rfl
  | cons _ front ih => exact ih

theorem Replaced.replaceAll_eq (h : Replaced pattern replacement text out) (hp : pattern ≠ []) :
    replaceAll pattern replacement text = out := by
  rw [replaceAll]
  induction h with
  | nil => rfl
  | @hit text out _ ih =>
    obtain ⟨c, rest, rfl⟩ := List.exists_cons_of_ne_nil hp
    have hprefix : (c :: rest).isPrefixOf (c :: (rest ++ text)) = true :=
      List.isPrefixOf_iff_prefix.2 (List.prefix_append (c :: rest) text)
    rw [List.cons_append, replaceFrom, if_pos hprefix, List.length_cons, Nat.add_sub_cancel,
      replaceFrom_length, ih]
  | @keep c text out free _ ih =>
    have hprefix : ¬ pattern.isPrefixOf (c :: text) = true :=
      fun hp => free (List.isPrefixOf_iff_prefix.1 hp)
    rw [replaceFrom, if_neg hprefix, ih]

/-- A text in which the pattern does not occur stays as it is. -/
theorem replaced_of_not_occurs (h : occurs pattern text = false) :
    Replaced pattern replacement text text := by
  induction text with
  | nil => exact .nil
  | cons c text ih =>
    rw [occurs, Bool.or_eq_false_iff] at h
    exact .keep (fun hp => by simp [List.isPrefixOf_iff_prefix.2 hp] at h) (ih h.2)

/-! ### Patterns between two marks -/

/-- A word between two marks. -/
def marked (mark : Char) (word : List Char) : List Char := mark :: (word ++ [mark])

variable {mark : Char} {word other : List Char}

/-- Text without the mark is passed over. -/
theorem Replaced.unmarked (h : Replaced (marked mark word) replacement text out)
    (hf : mark ∉ front) :
    Replaced (marked mark word) replacement (front ++ text) (front ++ out) := by
  induction front with
  | nil => exact h
  | cons c front ih =>
    rw [List.mem_cons, not_or] at hf
    exact .keep (fun hp => hf.1 (List.cons_prefix_cons.1 hp).1) (ih hf.2)

/-- Words without the mark are told apart by the mark behind them. -/
theorem eq_of_prefix (hw : mark ∉ word) (ho : mark ∉ other)
    (h : word ++ [mark] <+: other ++ mark :: text) : word = other := by
  have hword {cs rest : List Char} (hc : mark ∉ cs) :
      (cs ++ mark :: rest).takeWhile (fun c => decide (c ≠ mark)) = cs := by
    have hall : ∀ c ∈ cs, decide (c ≠ mark) = true := fun c hm => decide_eq_true (hc <| · ▸ hm)
    rw [List.takeWhile_append_of_pos hall, List.takeWhile_cons_of_neg (by simp), List.append_nil]
  obtain ⟨rest, he⟩ := h
  rw [List.append_assoc, List.singleton_append] at he
  rw [← hword hw, he, hword ho]

/-- Another word between marks is passed over, unless its last mark begins a match. -/
theorem Replaced.otherWord (h : Replaced (marked mark word) replacement text out) (hw : mark ∉ word)
    (ho : mark ∉ other) (hne : word ≠ other) (hfree : ¬ word ++ [mark] <+: text) :
    Replaced (marked mark word) replacement (marked mark other ++ text)
      (marked mark other ++ out) := by
  have hlast : Replaced (marked mark word) replacement ([mark] ++ text) ([mark] ++ out) :=
    .keep (fun hp => hfree (List.cons_prefix_cons.1 hp).2) h
  have hsplit (rest : List Char) :
      marked mark other ++ rest = mark :: (other ++ ([mark] ++ rest)) := by
    rw [marked, List.cons_append, List.append_assoc]
  rw [hsplit, hsplit]
  refine .keep (fun hp => hne ?_) (hlast.unmarked ho)
  exact eq_of_prefix hw ho (List.cons_prefix_cons.1 hp).2

end ScenarioCompiler.Text
