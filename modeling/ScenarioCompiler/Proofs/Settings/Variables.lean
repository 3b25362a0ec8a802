import Mathlib.Data.List.Sort
import ScenarioCompiler.Proofs.Settings.Override

namespace ScenarioCompiler

/-- The bindings of the other names. -/
def Bindings.without (b : Bindings) (name : String) : Bindings where
  entries := Table.without b.entries name
  distinct := b.distinct.sublist (List.filter_sublist.map _)

namespace Override

open Schema (Shape)

variable {shape : Shape} {start name raw : String} {fields : List String}
  {overrides others result : Table Override} {given : Table String} {environment : Bindings}

/-- The parts of the name of a variable; none if it lacks the prefix. -/
def parts (start name : String) : List String :=
  match dropPrefix? start name with
  | none => []
  | some path => segments path

theorem insertAll_cons : insertAll shape start overrides ((name, raw) :: given) =
    insert name raw shape overrides (parts start name) >>= fun overrides =>
      insertAll shape start overrides given := by
  rw [insertAll, parts]
  cases dropPrefix? start name <;> rfl

theorem insertAll_append (first second : Table String) :
    insertAll shape start overrides (first ++ second) =
      insertAll shape start overrides first >>= fun overrides =>
        insertAll shape start overrides second := by
  induction first generalizing overrides with
  | nil => rfl
  | cons entry rest ih =>
    rw [List.cons_append, insertAll_cons, insertAll_cons]
    cases insert entry.1 entry.2 shape overrides (parts start entry.1) with
    | error c => rfl
    | ok next => exact ih

/-- No variable of the list sets a field on the way along the given ones. -/
def NoneCovers (shape : Shape) (start : String) (given : Table String)
    (fields : List String) : Prop :=
  ∀ other ∈ Table.names given, ¬ Covers shape (parts start other) fields

/-- What the addition of every one of the variables keeps holds at their end. -/
theorem insertAll_preserves {P : Table Override → Prop}
    (hstep : ∀ other ∈ Table.names given, ∀ raw known next, P known →
      insert other raw shape known (parts start other) = .ok next → P next)
    (hp : P overrides) (h : insertAll shape start overrides given = .ok result) : P result := by
  induction given generalizing overrides with
  | nil => exact Except.ok.inj h ▸ hp
  | cons entry rest ih =>
    rw [insertAll_cons, bind_eq_ok] at h
    obtain ⟨next, hn, h⟩ := h
    have hnext : P next := hstep entry.1 List.mem_cons_self entry.2 overrides next hp hn
    exact ih (fun other hm => hstep other (List.mem_cons_of_mem _ hm)) hnext h

theorem Free.insertAll (hf : Free fields overrides)
    (hc : NoneCovers shape start given fields)
    (h : insertAll shape start overrides given = .ok result) : Free fields result :=
  insertAll_preserves (fun other hm _ _ _ hf hn => hf.insert (hc other hm) hn) hf h

theorem Tidy.insertAll (ht : Tidy overrides)
    (h : insertAll shape start overrides given = .ok result) : Tidy result :=
  insertAll_preserves (fun _ _ _ _ _ ht hn => ht.insert hn) ht h

theorem NestedAt.insertAll (hn : NestedAt fields overrides)
    (h : insertAll shape start overrides given = .ok result) : NestedAt fields result :=
  insertAll_preserves (fun _ _ _ _ _ hk hi => hk.insert hi) hn h

theorem nestedAt_of_mem (hm : name ∈ Table.names given)
    (he : Enters shape (parts start name) fields)
    (h : insertAll shape start overrides given = .ok result) : NestedAt fields result := by
  induction given generalizing overrides with
  | nil => exact absurd hm List.not_mem_nil
  | cons entry rest ih =>
    rw [insertAll_cons, bind_eq_ok] at h
    obtain ⟨next, hi, h⟩ := h
    rcases List.mem_cons.1 hm with rfl | hm
    · exact (nestedAt_of_enters he hi).insertAll h
    · exact ih hm h

theorem Agrees.insertAll (ha : Agrees fields overrides others)
    (hc : NoneCovers shape start given fields) :
    (∃ c, insertAll shape start overrides given = .error c ∧
      insertAll shape start others given = .error c) ∨
    ∃ result other, insertAll shape start overrides given = .ok result ∧
      insertAll shape start others given = .ok other ∧ Agrees fields result other := by
  induction given generalizing overrides others with
  | nil => exact .inr ⟨_, _, rfl, rfl, ha⟩
  | cons entry rest ih =>
    rw [insertAll_cons, insertAll_cons]
    rcases ha.insert entry.1 entry.2 (hc _ List.mem_cons_self) with
      ⟨c, he, he'⟩ | ⟨next, next', he, he', ha⟩
    · exact .inl ⟨c, by rw [he, error_bind], by rw [he', error_bind]⟩
    · rw [he, he', ok_bind, ok_bind]
      exact ih ha fun other hm => hc other (List.mem_cons_of_mem _ hm)

/-! ### Environments -/

/-- The variables of an environment in the order of their names. -/
def sorted (environment : Bindings) : Table String :=
  environment.entries.mergeSort fun a b => a.1 ≤ b.1

theorem ofEnvironment_eq : ofEnvironment shape start environment =
    insertAll shape start [] (sorted environment) := rfl

theorem names_sorted_perm (environment : Bindings) :
    (Table.names (sorted environment)).Perm environment.names :=
  (List.mergeSort_perm _ _).map _

theorem sorted_pairwise (environment : Bindings) :
    (sorted environment).Pairwise fun a b => a.1 ≤ b.1 := by
  refine (List.pairwise_mergeSort ?_ ?_ environment.entries).imp of_decide_eq_true
  · intro a b c hab hbc
    exact decide_eq_true (String.le_trans (of_decide_eq_true hab) (of_decide_eq_true hbc))
  · intro a b
    simpa using String.le_total a.1 b.1

/-- The order is one of names, which tell the variables of an environment apart. -/
theorem sorted_eq (hp : given.Perm environment.entries)
    (hs : given.Pairwise fun a b => a.1 ≤ b.1) : sorted environment = given := by
  have hp' : (sorted environment).Perm given := (List.mergeSort_perm _ _).trans hp.symm
  refine hp'.eq_of_pairwise (fun a b ha hb hab hba => ?_) (sorted_pairwise environment) hs
  exact List.inj_on_of_nodup_map environment.distinct (hp.subset (hp'.subset ha)) (hp.subset hb)
    (String.le_antisymm hab hba)

/-- Without a variable, the others keep their order. -/
theorem sorted_without (environment : Bindings) (name : String) :
    sorted (environment.without name) = Table.without (sorted environment) name :=
  sorted_eq ((List.mergeSort_perm _ _).filter _)
    ((sorted_pairwise environment).sublist List.filter_sublist)

theorem exists_split (hm : name ∈ environment.names) : ∃ before raw after,
    sorted environment = before ++ (name, raw) :: after ∧
      sorted (environment.without name) = before ++ after := by
  obtain ⟨⟨_, raw⟩, hv, rfl⟩ := List.mem_map.1 ((names_sorted_perm environment).mem_iff.2 hm)
  obtain ⟨before, after, he⟩ := List.append_of_mem hv
  have hd := (names_sorted_perm environment).nodup_iff.2 environment.distinct
  rw [he, Table.names, List.map_append, List.map_cons] at hd
  obtain ⟨hnew, -⟩ := List.nodup_cons.1 (List.nodup_middle.1 hd)
  refine ⟨before, raw, after, he, ?_⟩
  rw [sorted_without, he, Table.without, List.filter_append, List.filter_cons_of_neg (by simp),
    ← List.filter_append, List.filter_eq_self]
  intro x hx
  rw [← List.map_append] at hnew
  exact decide_eq_true fun hn => hnew (List.mem_map.2 ⟨x, hx, hn⟩)

/-- With and without a variable that is not mapped the overrides agree along the fields that it
reaches, if no other variable sets one of these. -/
theorem ofEnvironment_without (hm : name ∈ environment.names)
    (hu : Unmapped shape (parts start name))
    (hc : NoneCovers shape start (environment.without name).entries
      (reach shape (parts start name))) :
    (∃ c, ofEnvironment shape start environment = .error c ∧
      ofEnvironment shape start (environment.without name) = .error c) ∨
    ∃ result other, ofEnvironment shape start environment = .ok result ∧
      ofEnvironment shape start (environment.without name) = .ok other ∧
      Agrees (reach shape (parts start name)) result other := by
  obtain ⟨before, raw, after, he, he'⟩ := exists_split hm
  have hc' : NoneCovers shape start (before ++ after) (reach shape (parts start name)) :=
    fun other ho => hc other ((names_sorted_perm _).mem_iff.1 (he' ▸ ho))
  have hbefore : NoneCovers shape start before (reach shape (parts start name)) :=
    fun other ho => hc' other (Table.names_append _ _ ▸ List.mem_append_left _ ho)
  have hafter : NoneCovers shape start after (reach shape (parts start name)) :=
    fun other ho => hc' other (Table.names_append _ _ ▸ List.mem_append_right _ ho)
  rw [ofEnvironment_eq, ofEnvironment_eq, he, he', insertAll_append, insertAll_append]
  cases h : Override.insertAll shape start [] before with
  | error c => exact .inl ⟨c, rfl, rfl⟩
  | ok known =>
    obtain ⟨result, hr, ha⟩ := insert_of_unmapped name raw hu ((free_nil _).insertAll hbefore h)
    simp only [ok_bind, insertAll_cons, hr]
    exact ha.insertAll hafter

end Override

end ScenarioCompiler
