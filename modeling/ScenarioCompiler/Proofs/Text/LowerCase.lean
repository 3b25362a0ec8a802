import Mathlib.Data.List.Basic
import ScenarioCompiler.Text.LowerCase

namespace ScenarioCompiler.Text

/-! ### Runs of the case table -/

/-- Where a run moves a code point. -/
def CaseRun.target (r : CaseRun) (n : Nat) : Nat := ((n : Int) + r.offset).toNat

/-- No code point that `r` moves lies in `s`: the places are apart, or interleaved. The kernel
evaluates `Nat.blt` much faster than `<`, which counts over all pairs of runs. -/
def CaseRun.misses (r s : CaseRun) : Bool :=
  Nat.blt (r.target r.last) s.first || Nat.blt s.last (r.target r.first) ||
    ((r.step % s.step == 0 || r.first == r.last) && s.first ≤ r.target r.first &&
      (r.target r.first - s.first) % s.step != 0)

/-- What a run moves becomes a character, a small letter where it is in ASCII, and is not moved by
any run of the table. -/
structure CaseRun.Settles (r : CaseRun) : Prop where
  valid : r.target r.last < 0xD800 ∨ 0xDFFF < r.target r.first ∧ r.target r.last < 0x110000
  ascii : 128 ≤ r.target r.first ∨ 97 ≤ r.target r.first ∧ r.target r.last ≤ 122
  dotless : r.target r.last < 0x130 ∨ 0x130 < r.target r.first
  misses : ∀ s ∈ lowerRuns, r.misses s = true

theorem settles_of_mem {r : CaseRun} (h : r ∈ lowerRuns) : r.Settles := by
  have hplaces : ∀ r ∈ lowerRuns,
      (r.target r.last < 0xD800 ∨ 0xDFFF < r.target r.first ∧ r.target r.last < 0x110000) ∧
      (128 ≤ r.target r.first ∨ 97 ≤ r.target r.first ∧ r.target r.last ≤ 122) ∧
      (r.target r.last < 0x130 ∨ 0x130 < r.target r.first) := by
    decide +kernel
  have hmisses : (lowerRuns.all fun r => lowerRuns.all r.misses) = true := by decide +kernel
  obtain ⟨hvalid, hascii, hdotless⟩ := hplaces r h
  exact ⟨hvalid, hascii, hdotless, List.all_eq_true.1 (List.all_eq_true.1 hmisses r h)⟩

variable {r s : CaseRun} {c d : Char} {n : Nat} {b : Bool} {cs xs ys : List Char}

theorem CaseRun.target_mem (h : r.holds n = true) :
    r.target r.first ≤ r.target n ∧ r.target n ≤ r.target r.last := by
  simp only [CaseRun.holds, Bool.and_eq_true, decide_eq_true_eq] at h
  simp only [CaseRun.target]
  omega

theorem CaseRun.Settles.not_holds (hr : r.Settles) (hm : s ∈ lowerRuns) (h : r.holds n = true) :
    s.holds (r.target n) = false := by
  obtain ⟨hlow, hhigh⟩ := target_mem h
  have hascii := hr.ascii
  replace hm := hr.misses s hm
  simp only [CaseRun.misses, Nat.blt_eq, Bool.or_eq_true, Bool.and_eq_true, decide_eq_true_eq,
    beq_iff_eq, bne_iff_ne] at hm
  rw [Bool.eq_false_iff]
  intro hs
  simp only [CaseRun.holds, Bool.and_eq_true, decide_eq_true_eq, beq_iff_eq] at hs h
  rcases hm with (hm | hm) | ⟨⟨hstep, hfirst⟩, hm⟩
  · omega
  · omega
  · -- the place of `n` is a multiple of the step away from that of the first code point
    have hmoved : r.target n - s.first = (r.target r.first - s.first) + (n - r.first) := by
      simp only [CaseRun.target] at *
      omega
    have hdvd : s.step ∣ n - r.first := by
      rcases hstep with hstep | hsingle
      · exact Nat.dvd_trans (Nat.dvd_of_mod_eq_zero hstep) (Nat.dvd_of_mod_eq_zero h.2)
      · have hn : n - r.first = 0 := by omega
        exact hn ▸ Nat.dvd_zero _
    rw [hmoved, Nat.add_mod, Nat.mod_eq_zero_of_dvd hdvd, Nat.add_zero, Nat.mod_mod] at hs
    exact hm hs.2

/-! ### Single characters -/

theorem toLower_of_ascii (h : c.toNat < 128) :
    c.toLower.toNat < 128 ∧ c.toLower.toLower = c.toLower ∧
      (c.toLower = c ∨ 97 ≤ c.toLower.toNat ∧ c.toLower.toNat ≤ 122) := by
  have hall : ∀ n < 128, (Char.ofNat n).toLower.toNat < 128 ∧
      (Char.ofNat n).toLower.toLower = (Char.ofNat n).toLower ∧
      ((Char.ofNat n).toLower = Char.ofNat n ∨
        97 ≤ (Char.ofNat n).toLower.toNat ∧ (Char.ofNat n).toLower.toNat ≤ 122) := by
    decide
  simpa only [Char.ofNat_toNat] using hall c.toNat h

theorem toLower_eq_self (h : 97 ≤ c.toNat) (h' : c.toNat < 128) : c.toLower = c := by
  have hall : ∀ n < 128, 97 ≤ n → (Char.ofNat n).toLower = Char.ofNat n := by decide
  simpa only [Char.ofNat_toNat] using hall c.toNat h' h

/-- The ways in which a character gets its small form. -/
theorem lowerChar_cases (c : Char) :
    (c.toNat < 128 ∧ lowerChar c = [c.toLower]) ∨
      (c = 'İ' ∧ lowerChar c = ['i', '\u0307']) ∨
      (128 ≤ c.toNat ∧ lowerChar c = [c]) ∨
      ∃ r ∈ lowerRuns, r.holds c.toNat = true ∧
        ∃ d : Char, d.toNat = r.target c.toNat ∧ lowerChar c = [d] := by
  unfold lowerChar
  split
  · exact .inl ⟨‹_›, rfl⟩
  · split
    · exact .inr (.inl ⟨‹_›, rfl⟩)
    · split
      · rename_i run hf
        have hm := List.mem_of_find?_eq_some hf
        have hh : run.holds c.toNat = true := by simpa using List.find?_some hf
        have hvalid : (run.target c.toNat).isValidChar := by
          obtain ⟨hlow, hhigh⟩ := CaseRun.target_mem hh
          have hv := (settles_of_mem hm).valid
          unfold Nat.isValidChar
          omega
        have hmoved : (Char.ofNat (run.target c.toNat)).toNat = run.target c.toNat := by
          rw [Char.ofNat, dif_pos hvalid]
          rfl
        exact .inr (.inr (.inr ⟨run, hm, hh, _, hmoved, rfl⟩))
      · exact .inr (.inr (.inl ⟨by omega, rfl⟩))

/-- A character that lower-casing leaves as it is, whatever stands around it. -/
structure IsLowered (c : Char) : Prop where
  ne_sigma : c ≠ 'Σ'
  lowerChar_eq : lowerChar c = [c]

/-- What is in no run of the table is small already. -/
theorem isLowered_of_not_holds (h : 97 ≤ c.toNat) (hd : c ≠ 'İ')
    (hr : ∀ r ∈ lowerRuns, r.holds c.toNat = false) : IsLowered c where
  ne_sigma := by
    rintro rfl
    have hsigma : ∃ r ∈ lowerRuns, r.holds 'Σ'.toNat = true := by decide
    obtain ⟨r, hm, hh⟩ := hsigma
    rw [hr r hm] at hh
    cases hh
  lowerChar_eq := by
    rw [lowerChar, if_neg hd, List.find?_eq_none.2 fun r hm => by simp [hr r hm]]
    split
    · rw [toLower_eq_self h ‹_›]
    · rfl

theorem isLowered_of_mem_lowerChar (hc : c ≠ 'Σ') (h : d ∈ lowerChar c) : IsLowered d := by
  rcases lowerChar_cases c with ⟨ha, he⟩ | ⟨rfl, he⟩ | ⟨-, he⟩ | ⟨r, hm, hh, e, ht, he⟩
  · obtain rfl : d = c.toLower := by simpa [he] using h
    obtain ⟨hlt, hfix, -⟩ := toLower_of_ascii ha
    refine ⟨?_, by rw [lowerChar, if_pos hlt, hfix]⟩
    intro hs
    rw [hs] at hlt
    exact absurd hlt (by decide)
  · rw [he, List.mem_pair] at h
    rcases h with rfl | rfl
    · exact ⟨by decide, by decide +kernel⟩
    · exact ⟨by decide, by decide +kernel⟩
  · obtain rfl : d = c := by simpa [he] using h
    exact ⟨hc, he⟩
  · obtain rfl : d = e := by simpa [he] using h
    have hsettles := settles_of_mem hm
    obtain ⟨hlow, hhigh⟩ := CaseRun.target_mem hh
    refine isLowered_of_not_holds ?_ ?_ fun s hs => ?_
    · have := hsettles.ascii
      omega
    · rintro rfl
      have hdot : 'İ'.toNat = 0x130 := rfl
      have := hsettles.dotless
      omega
    · rw [ht]
      exact hsettles.not_holds hs hh

/-- The only characters of ASCII that a small form brings in are small letters. -/
theorem eq_of_mem_lowerChar (hd : d.toNat < 128) (hl : ¬ (97 ≤ d.toNat ∧ d.toNat ≤ 122))
    (h : d ∈ lowerChar c) : d = c := by
  rcases lowerChar_cases c with ⟨ha, he⟩ | ⟨rfl, he⟩ | ⟨-, he⟩ | ⟨r, hm, hh, e, ht, he⟩
  · obtain rfl : d = c.toLower := by simpa [he] using h
    exact (toLower_of_ascii ha).2.2.resolve_right hl
  · rw [he, List.mem_pair] at h
    rcases h with rfl | rfl
    · exact absurd (by decide) hl
    · exact absurd hd (by decide)
  · simpa [he] using h
  · obtain rfl : d = e := by simpa [he] using h
    obtain ⟨hlow, hhigh⟩ := CaseRun.target_mem hh
    have := (settles_of_mem hm).ascii
    omega

/-! ### Texts -/

theorem mem_smallSigma (h : d ∈ [if b then 'ς' else 'σ']) : d = 'ς' ∨ d = 'σ' := by
  rw [List.mem_singleton] at h
  cases b with
  | true => exact .inl h
  | false => exact .inr h

theorem isLowered_of_mem_lowerFrom (h : d ∈ lowerFrom b cs) : IsLowered d := by
  induction cs generalizing b with
  | nil => cases h
  | cons c rest ih =>
    rw [lowerFrom, List.mem_append] at h
    rcases h with h | h
    · split at h
      · rcases mem_smallSigma h with rfl | rfl
        · exact ⟨by decide, by decide +kernel⟩
        · exact ⟨by decide, by decide +kernel⟩
      · exact isLowered_of_mem_lowerChar ‹_› h
    · exact ih h

theorem lowerFrom_eq_self (h : ∀ c ∈ cs, IsLowered c) : lowerFrom b cs = cs := by
  induction cs generalizing b with
  | nil => rfl
  | cons c rest ih =>
    obtain ⟨hc, hrest⟩ := List.forall_mem_cons.1 h
    rw [lowerFrom, if_neg hc.ne_sigma, hc.lowerChar_eq, ih hrest, List.singleton_append]

/-- In ASCII no character depends on its neighbours. -/
theorem lowerFrom_of_ascii (h : ∀ c ∈ cs, c.toNat < 128) :
    lowerFrom b cs = cs.map Char.toLower := by
  induction cs generalizing b with
  | nil => rfl
  | cons c rest ih =>
    obtain ⟨hc, hrest⟩ := List.forall_mem_cons.1 h
    have hsigma : c ≠ 'Σ' := by
      rintro rfl
      exact absurd hc (by decide)
    rw [lowerFrom, if_neg hsigma, lowerChar, if_pos hc, ih hrest]
    rfl

/-- A text in lower case stays as it is in every context. -/
theorem lowerFrom_lowerChars (b : Bool) (cs : List Char) :
    lowerFrom b (lowerChars cs) = lowerChars cs :=
  lowerFrom_eq_self fun _ h => isLowered_of_mem_lowerFrom h

/-- A character that is neither cased nor ignored in between separates the words of a text: the
parts before and behind it are lower-cased on their own. -/
theorem lowerFrom_append_cons (hi : isCaseIgnorable c = false) (hc : isCased c = false)
    (h : IsLowered c) :
    lowerFrom b (xs ++ c :: ys) = lowerFrom b xs ++ c :: lowerFrom false ys := by
  induction xs generalizing b with
  | nil =>
    rw [List.nil_append, lowerFrom, lowerFrom, if_neg h.ne_sigma, h.lowerChar_eq, hi, hc]
    rfl
  | cons x xs ih =>
    have hstarts : startsCased (xs ++ c :: ys) = startsCased xs := by
      clear ih
      induction xs with
      | nil => simp [startsCased, hi, hc]
      | cons y ys ih => simp [startsCased, ih]
    rw [List.cons_append, lowerFrom, hstarts, ih, lowerFrom, List.append_assoc]

/-- Parts of a path are lower-cased one by one. -/
theorem lowerChars_slash (xs ys : List Char) :
    lowerChars (xs ++ '/' :: ys) = lowerChars xs ++ '/' :: lowerChars ys :=
  lowerFrom_append_cons (by decide) (by decide) ⟨by decide, by decide⟩

/-- A part that is in lower case already may be joined before or after lower-casing. -/
theorem lowerCase_slash (first second : String) :
    lowerCase (first ++ "/" ++ lowerCase second) = lowerCase first ++ "/" ++ lowerCase second := by
  have hchars : (first ++ "/" ++ lowerCase second).toList =
      first.toList ++ '/' :: lowerChars second.toList := by
    simp [lowerCase]
  have hlower : lowerChars (lowerChars second.toList) = lowerChars second.toList :=
    lowerFrom_lowerChars false second.toList
  apply String.toList_inj.1
  rw [lowerCase, hchars, lowerChars_slash, hlower]
  simp [lowerCase]

theorem mem_of_mem_lowerFrom (hd : d.toNat < 128) (hl : ¬ (97 ≤ d.toNat ∧ d.toNat ≤ 122))
    (h : d ∈ lowerFrom b cs) : d ∈ cs := by
  induction cs generalizing b with
  | nil => cases h
  | cons c rest ih =>
    rw [lowerFrom, List.mem_append] at h
    rcases h with h | h
    · split at h
      · rcases mem_smallSigma h with rfl | rfl
        · exact absurd hd (by decide)
        · exact absurd hd (by decide)
      · rw [eq_of_mem_lowerChar hd hl h]
        exact List.mem_cons_self
    · exact List.mem_cons_of_mem _ (ih h)

end ScenarioCompiler.Text
