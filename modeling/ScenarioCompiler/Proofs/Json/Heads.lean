import ScenarioCompiler.Proofs.Json.Scalar
import ScenarioCompiler.Text.Blank

namespace ScenarioCompiler.Json

variable {c d : Char} {cs more rest : List Char} {fuel : Nat} {s : String}

/-- A character with which a value begins. -/
def Begins (c : Char) : Prop :=
  c.isDigit = true ∨ c ∈ ['[', '\x7b', '"', '-', 'n', 't', 'f', 'N', 'I']

theorem readNumber_eq_none (negative : Bool) (h : c.isDigit = false) :
    readNumber negative (c :: cs) = none := by
  have hz : ∀ rest, c :: cs ≠ '0' :: rest := by
    rintro rest he
    rw [(List.cons.inj he).1] at h
    exact absurd h (by decide)
  unfold readNumber
  split
  rename_i whole more hwhole
  split at hwhole
  · exact absurd ‹_› (hz _)
  · rw [List.takeWhile_cons_of_neg (by simp [h])] at hwhole
    simp [← (Prod.mk.inj hwhole).1]

/-- No value begins with any other character. -/
theorem readValue_eq_none (h : ¬ Begins c) : readValue fuel (c :: cs) = none := by
  simp only [Begins, List.mem_cons, List.not_mem_nil, or_false, not_or] at h
  obtain ⟨hdigit, hlist, hobject, hquote, hminus, hn, ht, hf, hN, hI⟩ := h
  have hw : readWord (c :: cs) = none := by
    simp [readWord, words, Ne.symm hn, Ne.symm ht, Ne.symm hf, Ne.symm hN, Ne.symm hI,
      Ne.symm hminus]
  have hnumber : readNumber false (c :: cs) = none :=
    readNumber_eq_none false (Bool.eq_false_iff.2 hdigit)
  cases fuel with
  | zero => rfl
  | succ fuel => simp [readValue, readScalar, hlist, hobject, hquote, hminus, hw, hnumber]

theorem readWord_ne_str : readWord cs ≠ some (.str s, rest) := by
  intro h
  obtain ⟨w, hw, he⟩ := Option.map_eq_some_iff.1 h
  have hs : ∀ w ∈ words, ∀ s, w.2 ≠ .str s := by
    simp [words]
  exact hs w (List.mem_of_find?_eq_some hw) s (Prod.mk.inj he).1

theorem readNumber_ne_str (negative : Bool) : readNumber negative cs ≠ some (.str s, rest) := by
  unfold readNumber
  split
  dsimp only
  repeat' split
  all_goals simp

/-- Only a text begins with a double quote. -/
theorem eq_quote_of_readScalar (h : readScalar fuel (c :: cs) = some (.str s, rest)) :
    c = '"' := by
  unfold readScalar at h
  split at h
  · rename_i heq
    exact (List.cons.inj heq).1
  · split at h
    · exact absurd (‹readWord _ = _›.trans h) readWord_ne_str
    · split at h
      · exact absurd h (readNumber_ne_str true)
      · exact absurd h (readNumber_ne_str false)

theorem eq_quote_of_readValue (h : readValue fuel (c :: cs) = some (.str s, rest)) : c = '"' := by
  cases fuel with
  | zero => simp [readValue] at h
  | succ fuel =>
    rw [readValue.eq_def] at h
    dsimp only at h
    split at h
    · split at h <;> simp at h
    · split at h <;> simp at h
    · exact eq_quote_of_readScalar h

theorem readItems_eq_some {items : List Json} (h : readItems fuel cs = some (items, rest)) :
    ∃ item others fuel after, items = item :: others ∧
      readValue fuel cs = some (item, after) := by
  cases fuel with
  | zero => simp [readItems] at h
  | succ fuel =>
    simp only [readItems, Option.bind_eq_bind, Option.bind_eq_some_iff] at h
    obtain ⟨⟨item, after⟩, hv, h⟩ := h
    dsimp only at h
    split at h
    · obtain ⟨rfl, -⟩ := Prod.mk.inj (Option.some.inj h)
      exact ⟨item, [], fuel, after, rfl, hv⟩
    · obtain ⟨others, -, h⟩ := Option.bind_eq_some_iff.1 h
      obtain ⟨rfl, -⟩ := Prod.mk.inj (Option.some.inj h)
      exact ⟨item, others.1, fuel, after, rfl, hv⟩
    · simp at h

/-- A value that begins with a bracket is a list: the bracket is closed at once, or a first item
begins behind the white space. -/
theorem readValue_bracket {document : Json} (hs : skipSpace cs = d :: more)
    (h : readValue fuel ('[' :: cs) = some (document, rest)) :
    (d = ']' ∧ rest = more) ∨
      ∃ item others fuel after, document = .arr (item :: others) ∧
        readValue fuel (d :: more) = some (item, after) := by
  cases fuel with
  | zero => simp [readValue] at h
  | succ fuel =>
    rw [readValue, hs] at h
    split at h
    · rename_i heq
      obtain ⟨rfl, rfl⟩ := List.cons.inj heq
      exact .inl ⟨rfl, (Prod.mk.inj (Option.some.inj h)).2.symm⟩
    · obtain ⟨⟨items, tail⟩, hitems, he⟩ := Option.map_eq_some_iff.1 h
      obtain ⟨rfl, -⟩ := Prod.mk.inj he
      obtain ⟨item, others, fuel, after, rfl, hv⟩ := readItems_eq_some hitems
      exact .inr ⟨item, others, fuel, after, rfl, hv⟩

/-- In a text of which the bracket is closed at once nothing but white space follows. -/
theorem read_bracket {text : String} {document : Json} (ht : text.toList = '[' :: cs)
    (hs : skipSpace cs = d :: more) (h : read text = some document) :
    (d = ']' ∧ skipSpace more = []) ∨
      ∃ item others fuel after, document = .arr (item :: others) ∧
        readValue fuel (d :: more) = some (item, after) := by
  simp only [read, ht, skipSpace_cons (c := '[') rfl] at h
  split at h
  · rename_i rest hv
    split at h
    · obtain rfl := Option.some.inj h
      refine (readValue_bracket hs hv).imp_left ?_
      rintro ⟨hd, rfl⟩
      exact ⟨hd, List.isEmpty_iff.1 ‹_›⟩
    · simp at h
  · simp at h

end ScenarioCompiler.Json
