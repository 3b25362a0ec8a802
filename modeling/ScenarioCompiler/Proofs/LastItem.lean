import Mathlib.Data.List.Induction
import Mathlib.Data.List.Nodup

namespace ScenarioCompiler

variable {α : Type} {p : α → Prop} {items : List α} {x : α}

/-- The last item of a list with a property. -/
def IsLast (p : α → Prop) (items : List α) (x : α) : Prop :=
  ∃ before after, items = before ++ x :: after ∧ p x ∧ ∀ y ∈ after, ¬ p y

theorem IsLast.mem (h : IsLast p items x) : x ∈ items := by
  obtain ⟨before, after, rfl, -⟩ := h
  simp

theorem IsLast.prop (h : IsLast p items x) : p x := by
  obtain ⟨_, _, _, hx, _⟩ := h
  exact hx

theorem isLast_append_singleton {y : α} :
    IsLast p (items ++ [y]) x ↔ p y ∧ x = y ∨ ¬ p y ∧ IsLast p items x := by
  constructor
  · rintro ⟨before, after, he, hx, ha⟩
    rcases List.eq_nil_or_concat after with rfl | ⟨front, z, rfl⟩
    · obtain ⟨-, rfl⟩ := List.append_singleton_inj.1 he
      exact .inl ⟨hx, rfl⟩
    · rw [List.concat_eq_append] at he ha
      rw [← List.cons_append, ← List.append_assoc] at he
      obtain ⟨rfl, rfl⟩ := List.append_singleton_inj.1 he
      exact .inr ⟨ha y (by simp), before, front, rfl, hx, fun z hz => ha z (by simp [hz])⟩
  · rintro (⟨hy, rfl⟩ | ⟨hy, before, after, rfl, hx, ha⟩)
    · exact ⟨items, [], rfl, hy, by simp⟩
    · refine ⟨before, after ++ [y], by simp, hx, fun z hz => ?_⟩
      rcases List.mem_append.1 hz with hz | hz
      · exact ha z hz
      · exact List.mem_singleton.1 hz ▸ hy

theorem exists_isLast (hx : x ∈ items) (hp : p x) : ∃ y, IsLast p items y := by
  induction items using List.reverseRecOn with
  | nil => exact absurd hx List.not_mem_nil
  | append_singleton front y ih =>
    by_cases hy : p y
    · exact ⟨y, isLast_append_singleton.2 (.inl ⟨hy, rfl⟩)⟩
    · rcases List.mem_append.1 hx with hx | hx
      · obtain ⟨z, hz⟩ := ih hx
        exact ⟨z, isLast_append_singleton.2 (.inr ⟨hy, hz⟩)⟩
      · exact absurd (List.mem_singleton.1 hx ▸ hp) hy

/-- The first item of the reversed list whose key is the given one. -/
theorem find?_reverse_eq_some {key : α → String} {k : String} :
    items.reverse.find? (key · == k) = some x ↔ IsLast (key · = k) items x := by
  rw [List.find?_eq_some_iff_append]
  simp only [beq_iff_eq, Bool.not_eq_eq_eq_not, Bool.not_true, beq_eq_false_iff_ne]
  constructor
  · rintro ⟨hx, after, before, he, ha⟩
    refine ⟨before.reverse, after.reverse, ?_, hx, fun y hy => ha y (List.mem_reverse.1 hy)⟩
    simpa using congrArg List.reverse he
  · rintro ⟨before, after, rfl, hx, ha⟩
    exact ⟨hx, after.reverse, before.reverse, by simp, fun y hy => ha y (List.mem_reverse.1 hy)⟩

theorem find?_reverse_eq_none {key : α → String} {k : String} :
    items.reverse.find? (key · == k) = none ↔ ∀ y ∈ items, key y ≠ k := by
  simp

/-! ### Order and surplus -/

variable {key : α → String} {k : String} {others extra : List α}

/-- A key that only one item can have finds this item wherever it is in the list. -/
theorem find?_reverse_eq_some_of_unique
    (hu : ∀ x ∈ items, ∀ y ∈ items, key x = k → key y = k → x = y) :
    items.reverse.find? (key · == k) = some x ↔ x ∈ items ∧ key x = k := by
  constructor
  · intro h
    have hl := find?_reverse_eq_some.1 h
    exact ⟨hl.mem, hl.prop⟩
  · rintro ⟨hx, hk⟩
    cases hf : items.reverse.find? (key · == k) with
    | none => exact absurd hk (find?_reverse_eq_none.1 hf x hx)
    | some y =>
      have hl := find?_reverse_eq_some.1 hf
      rw [hu x hx y hl.mem hk hl.prop]

/-- A list with distinct keys answers to a key as before when it is put into another order and
items with other keys are added. -/
theorem find?_reverse_of_perm (hd : (items.map key).Nodup) (hp : others.Perm (items ++ extra))
    (he : ∀ y ∈ extra, key y ≠ k) :
    others.reverse.find? (key · == k) = items.reverse.find? (key · == k) := by
  have hmem : ∀ y, key y = k → (y ∈ others ↔ y ∈ items) := by
    intro y hy
    rw [hp.mem_iff, List.mem_append]
    exact or_iff_left fun hm => he y hm hy
  have hu : ∀ x ∈ items, ∀ y ∈ items, key x = k → key y = k → x = y :=
    fun x hx y hy hxk hyk => List.inj_on_of_nodup_map hd hx hy (hxk.trans hyk.symm)
  have hu' : ∀ x ∈ others, ∀ y ∈ others, key x = k → key y = k → x = y :=
    fun x hx y hy hxk hyk => hu x ((hmem x hxk).1 hx) y ((hmem y hyk).1 hy) hxk hyk
  refine Option.ext fun y => ?_
  rw [find?_reverse_eq_some_of_unique hu, find?_reverse_eq_some_of_unique hu']
  exact and_congr_left fun hy => hmem y hy

end ScenarioCompiler
