import Mathlib.Data.List.Forall2

namespace ScenarioCompiler

variable {α β γ : Type} {P : α → β → Prop} {Q : α → γ → Prop} {R : β → γ → Prop}
  {items : List α} {xs : List β} {ys : List γ}

/-- What holds of the first of two related items holds of all items of the first list. -/
theorem forall_mem_of_forall₂ {p : α → Prop} (h : List.Forall₂ P items xs)
    (hp : ∀ a x, P a x → p a) : ∀ a ∈ items, p a := by
  induction h with
  | nil => exact List.forall_mem_nil p
  | cons hax _ ih => exact List.forall_mem_cons.2 ⟨hp _ _ hax, ih⟩

theorem exists_mem_of_forall₂ (h : List.Forall₂ P items xs) {x : β} (hx : x ∈ xs) :
    ∃ a ∈ items, P a x := by
  induction h with
  | nil => simp at hx
  | cons hax _ ih =>
    rcases List.mem_cons.1 hx with rfl | hx
    · exact ⟨_, List.mem_cons_self, hax⟩
    · obtain ⟨a, ha, hp⟩ := ih hx
      exact ⟨a, List.mem_cons_of_mem _ ha, hp⟩

theorem exists_related_of_forall₂ (h : List.Forall₂ P items xs) {a : α} (ha : a ∈ items) :
    ∃ x ∈ xs, P a x :=
  exists_mem_of_forall₂ h.flip ha

/-- What stands at a position of the first list is related to what stands there in the second. -/
theorem getElem?_of_forall₂ (h : List.Forall₂ P items xs) {i : Nat} {a : α}
    (ha : items[i]? = some a) : ∃ x, xs[i]? = some x ∧ P a x := by
  induction h generalizing i with
  | nil => simp at ha
  | cons hax _ ih =>
    cases i with
    | zero =>
      cases ha
      exact ⟨_, rfl, hax⟩
    | succ i => exact ih ha

theorem forall₂_of_common (hP : List.Forall₂ P items xs) (hQ : List.Forall₂ Q items ys)
    (h : ∀ a ∈ items, ∀ x y, P a x → Q a y → R x y) : List.Forall₂ R xs ys := by
  induction hP generalizing ys with
  | nil =>
    cases hQ
    exact .nil
  | cons hp _ ih =>
    obtain ⟨hfirst, hrest⟩ := List.forall_mem_cons.1 h
    cases hQ with
    | cons hq hqs => exact .cons (hfirst _ _ hp hq) (ih hqs hrest)

theorem eq_of_mem_zipIdx {x y : α} {start number : Nat} (hx : (x, number) ∈ items.zipIdx start)
    (hy : (y, number) ∈ items.zipIdx start) : x = y :=
  (List.mem_zipIdx hx).2.2.trans (List.mem_zipIdx hy).2.2.symm

end ScenarioCompiler
