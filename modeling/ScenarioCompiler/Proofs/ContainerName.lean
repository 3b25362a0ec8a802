import ScenarioCompiler.Pipeline.Stack

namespace ScenarioCompiler

/-- The part of a name before its number. -/
def stem (name : String) : List Char := name.toList.takeWhile (· ≠ '-')

theorem stem_append (base number : String) (hb : '-' ∉ base.toList) :
    stem (base ++ "-" ++ number) = base.toList := by
  have hc : ∀ c ∈ base.toList, decide (c ≠ '-') = true := by
    intro c hm
    exact decide_eq_true fun h => hb (h ▸ hm)
  rw [stem, String.toList_append, String.toList_append, List.append_assoc,
    List.takeWhile_append_of_pos hc]
  simp

theorem natText_injective {m n : Nat} (h : toString m = toString n) : m = n := by
  have hd : Nat.toDigits 10 m = Nat.toDigits 10 n := by
    simpa only [Nat.toString_eq_repr, Nat.toList_repr] using congrArg String.toList h
  simpa using congrArg (fun digits => Nat.ofDigitChars 10 digits 0) hd

theorem append_injective {base first second : String} (h : base ++ first = base ++ second) :
    first = second := by
  have hl := congrArg String.toList h
  rw [String.toList_append, String.toList_append] at hl
  exact String.toList_inj.1 (List.append_cancel_left hl)

namespace Stack

theorem mergedName_injective {m n : Nat} (h : mergedName m = mergedName n) : m = n :=
  natText_injective (append_injective h)

theorem stem_mergedName (number : Nat) :
    stem (mergedName number) = "multipleStepsContainer".toList :=
  stem_append "multipleStepsContainer" (toString number) (by decide)

theorem mergedName_ne_root (number : Nat) : mergedName number ≠ rootDependency := by
  intro h
  have hs := stem_mergedName number
  rw [h] at hs
  exact absurd hs (by decide)

end Stack

end ScenarioCompiler
