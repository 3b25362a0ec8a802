import ScenarioCompiler.Yaml.Cursor
import ScenarioCompiler.Yaml.Writer

namespace ScenarioCompiler.Yaml

/-- The printable characters of ASCII, which take one column each. -/
def IsInline (ch : Char) : Prop := 32 ≤ ch.toNat ∧ ch.toNat ≤ 126

instance (ch : Char) : Decidable (IsInline ch) := inferInstanceAs (Decidable (_ ∧ _))

/-- What holds of characters one by one is checked by going through the text. -/
theorem forall_mem_of_all {p : Char → Prop} [DecidablePred p] {cs : List Char}
    (h : cs.all (p ·) = true) : ∀ x ∈ cs, p x :=
  fun x hx => of_decide_eq_true (List.all_eq_true.1 h x hx)

theorem IsInline.ne {ch other : Char} (h : IsInline ch) (ho : ¬ IsInline other) : ch ≠ other :=
  fun he => ho (he ▸ h)

theorem IsInline.isBreak {ch : Char} (h : IsInline ch) : isBreak ch = false := by
  simp [Yaml.isBreak, h.ne (by decide : ¬ IsInline '\n'), h.ne (by decide : ¬ IsInline '\r'),
    h.ne (by decide : ¬ IsInline '\x85'), h.ne (by decide : ¬ IsInline '\u2028'),
    h.ne (by decide : ¬ IsInline '\u2029')]

theorem IsInline.ne_tab {ch : Char} (h : IsInline ch) : ch ≠ '\t' := h.ne (by decide)

theorem IsInline.isReadable {ch : Char} (h : IsInline ch) : isReadable ch = true := by
  simp [Yaml.isReadable, h.1, h.2]

theorem isInlineBlank_iff {ch : Char} (h : IsInline ch) : isInlineBlank ch = true ↔ ch = ' ' := by
  simp [isInlineBlank, h.ne_tab]

theorem isBlankOrEnd_iff {ch : Char} (h : IsInline ch) :
    isBlankOrEnd (some ch) = true ↔ ch = ' ' := by
  simp [isBlankOrEnd, h.ne_tab, h.isBreak]

theorem Writer.isInline_of_isOrdinary {ch : Char} (h : isOrdinary ch = true) (hn : ch ≠ '\n') :
    IsInline ch := by
  simpa [isOrdinary, hn, IsInline] using h

theorem forall_isInline_replicate (n : Nat) : ∀ ch ∈ List.replicate n ' ', IsInline ch := by
  intro ch hm
  rw [(List.mem_replicate.1 hm).2]
  decide

namespace Cursor

variable {c : Cursor} {cs rest : List Char} {ch : Char} {i l k m n : Nat}

@[simp] theorem forward_zero (c : Cursor) : c.forward 0 = c := rfl

theorem forward_succ (n : Nat) (c : Cursor) : c.forward (n + 1) = c.step.forward n := rfl

theorem forward_add (m n : Nat) (c : Cursor) : c.forward (m + n) = (c.forward m).forward n := by
  induction m generalizing c with
  | zero => rw [Nat.zero_add, forward_zero]
  | succ m ih => rw [Nat.succ_add, forward_succ, ih, forward_succ]

theorem step_inline (h : IsInline ch) :
    step ⟨ch :: rest, i, l, k⟩ = ⟨rest, i + 1, l, k + 1⟩ := by
  have hr : ch ≠ '\r' := h.ne (by decide)
  have hm : ch ≠ '\ufeff' := h.ne (by decide)
  simp [step, h.isBreak, hr, hm]

theorem step_of_inline (hr : c.rest = ch :: rest) (h : IsInline ch) :
    c.step = ⟨rest, c.index + 1, c.line, c.column + 1⟩ := by
  obtain ⟨_, i, l, k⟩ := c
  dsimp only at hr
  subst hr
  exact step_inline h

theorem column_step (hr : c.rest = ch :: rest) (h : IsInline ch) :
    c.step.column = c.column + 1 := by
  rw [step_of_inline hr h]

theorem step_newline : step ⟨'\n' :: rest, i, l, k⟩ = ⟨rest, i + 1, l + 1, 0⟩ := rfl

/-- Characters on one line are as many columns. -/
theorem forward_inline (h : ∀ ch ∈ cs, IsInline ch) :
    forward cs.length ⟨cs ++ rest, i, l, k⟩ = ⟨rest, i + cs.length, l, k + cs.length⟩ := by
  induction cs generalizing i k with
  | nil => rfl
  | cons ch cs ih =>
    rw [List.length_cons, forward_succ, List.cons_append, step_inline (h ch List.mem_cons_self),
      ih fun x hx => h x (List.mem_cons_of_mem _ hx)]
    congr 1 <;> omega

theorem step_rest (c : Cursor) : c.step.rest = c.rest.tail := by
  unfold step
  split
  · rename_i h
    rw [h]
    rfl
  · rename_i h
    rw [h]
    split
    · rfl
    · split <;> rfl

theorem forward_rest (n : Nat) (c : Cursor) : (c.forward n).rest = c.rest.drop n := by
  induction n generalizing c with
  | zero => rfl
  | succ n ih => rw [forward_succ, ih, step_rest, ← List.drop_one, List.drop_drop, Nat.add_comm]

theorem forward_rest_append (cs : List Char) (h : c.rest = cs ++ rest) :
    (c.forward cs.length).rest = rest := by
  rw [forward_rest, h, List.drop_left]

theorem forward_rest_cons (h : c.rest = cs ++ ch :: rest) :
    (c.forward (cs.length + 1)).rest = rest := by
  rw [forward_rest, h, ← List.drop_drop, List.drop_left, List.drop_one, List.tail_cons]

theorem forward_replicate (hr : c.rest = List.replicate m ' ' ++ rest) :
    c.forward m = ⟨rest, c.index + m, c.line, c.column + m⟩ := by
  obtain ⟨_, i, l, k⟩ := c
  dsimp only at hr
  subst hr
  have h : forward (List.replicate m ' ').length ⟨List.replicate m ' ' ++ rest, i, l, k⟩ =
      ⟨rest, i + (List.replicate m ' ').length, l, k + (List.replicate m ' ').length⟩ :=
    forward_inline (forall_isInline_replicate m)
  rwa [List.length_replicate] at h

theorem forward_line (hr : c.rest = '\n' :: (List.replicate m ' ' ++ rest)) :
    c.forward (m + 1) = ⟨rest, c.index + 1 + m, c.line + 1, m⟩ := by
  obtain ⟨_, i, l, k⟩ := c
  dsimp only at hr
  subst hr
  rw [forward_succ, step_newline]
  have h := forward_replicate (c := ⟨List.replicate m ' ' ++ rest, i + 1, l + 1, 0⟩) rfl
  rwa [Nat.zero_add] at h

/-! ### Going forward -/

/-- The second place is not before the first one. -/
structure Before (c d : Cursor) : Prop where
  line : c.line ≤ d.line
  index : c.index ≤ d.index

theorem Before.refl (c : Cursor) : Before c c := ⟨Nat.le_refl _, Nat.le_refl _⟩

theorem Before.trans {c d e : Cursor} (h : Before c d) (h' : Before d e) : Before c e :=
  ⟨Nat.le_trans h.line h'.line, Nat.le_trans h.index h'.index⟩

theorem before_step (c : Cursor) : Before c c.step := by
  unfold step
  split
  · exact .refl c
  · split
    · exact ⟨Nat.le_succ _, Nat.le_succ _⟩
    · split <;> exact ⟨Nat.le_refl _, Nat.le_succ _⟩

theorem before_forward (n : Nat) (c : Cursor) : Before c (c.forward n) := by
  induction n generalizing c with
  | zero => exact .refl c
  | succ n ih => exact (before_step c).trans (ih c.step)

theorem before_skip (p : Char → Bool) (c : Cursor) : Before c (c.skip p) := before_forward _ c

theorem before_lineBreak (c : Cursor) : Before c c.lineBreak.2 := by
  unfold lineBreak
  split
  · exact before_forward 2 c
  · split
    · exact before_step c
    · split
      · exact before_step c
      · exact .refl c
  · exact .refl c

theorem lineBreak_newline (h : c.rest = '\n' :: rest) : c.lineBreak = (['\n'], c.step) := by
  unfold lineBreak
  split
  · rename_i h'
    rw [h] at h'
    cases h'
  · rename_i h'
    rw [h] at h'
    cases h'
    rfl
  · rename_i h'
    rw [h] at h'
    cases h'

/-- A mark does not stand in front of a text with another first character. -/
theorem atDocumentMark_eq_false (h : c.rest = ch :: rest) (hd : ch ≠ '-') (hp : ch ≠ '.') :
    c.atDocumentMark = false := by
  simp [atDocumentMark, atMark, h, hd.symm, hp.symm]

theorem span_append {p : Char → Bool} (h : c.rest = cs ++ rest) (hc : ∀ x ∈ cs, p x = true)
    (hr : ∀ x ∈ rest.head?, p x = false) : c.span p = (cs, c.forward cs.length) := by
  have htake : c.rest.takeWhile p = cs := by
    rw [h, List.takeWhile_append_of_pos hc]
    cases rest with
    | nil => simp
    | cons x rest => simp [hr x rfl]
  rw [span, htake]

end Cursor

end ScenarioCompiler.Yaml
