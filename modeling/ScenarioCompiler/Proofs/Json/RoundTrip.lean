import ScenarioCompiler.Proofs.Json.Scalar
import ScenarioCompiler.Proofs.Table

namespace ScenarioCompiler.Json

mutual

/-- A document that its text determines: it has no floats, its integers have a decimal text, and
the names of each of its objects are distinct. -/
def Plain : Json → Prop
  | .float _ => False
  | .int n => n.natAbs < 10 ^ digitLimit
  | .arr items => PlainItems items
  | .obj fields => (Table.names fields).Nodup ∧ PlainFields fields
  | .null | .bool _ | .str _ => True

def PlainItems : List Json → Prop
  | [] => True
  | item :: rest => Plain item ∧ PlainItems rest

def PlainFields : List (String × Json) → Prop
  | [] => True
  | (_, value) :: rest => Plain value ∧ PlainFields rest

end

variable {layout : Layout} {c : Char} {rest blanks : List Char} {depth fuel : Nat}

/-! ### Layouts -/

theorem isSpace_newline : ∀ c ∈ layout.newline depth, isSpace c = true := by
  unfold Layout.newline
  split
  · simp
  · intro c hc
    rcases List.mem_cons.1 hc with rfl | hc
    · rfl
    · rw [(List.mem_replicate.1 hc).2]
      rfl

theorem isSpace_opening : ∀ c ∈ layout.opening, isSpace c = true := isSpace_newline

theorem isSpace_closing : ∀ c ∈ layout.closing, isSpace c = true := isSpace_newline

theorem exists_between (layout : Layout) :
    ∃ blanks, layout.between = ',' :: blanks ∧ ∀ c ∈ blanks, isSpace c = true := by
  unfold Layout.between
  split
  · exact ⟨[' '], rfl, List.forall_mem_singleton.2 rfl⟩
  · exact ⟨_, rfl, isSpace_newline⟩

theorem endsNumber_cons (hd : c.isDigit = false) (he : c ∉ ['.', 'e', 'E']) :
    EndsNumber (c :: rest) := by
  intro d h
  cases h
  simp only [List.mem_cons, List.not_mem_nil, or_false, not_or] at he
  exact ⟨hd, he⟩

/-- What holds of a blank, a tab and the ends of lines holds of white space. -/
theorem of_isSpace {p : Char → Prop} (hp : p ' ' ∧ p '\t' ∧ p '\n' ∧ p '\r')
    (h : isSpace c = true) : p c := by
  simp only [isSpace, Bool.or_eq_true, decide_eq_true_eq] at h
  obtain ⟨hblank, htab, hnewline, hreturn⟩ := hp
  obtain ((rfl | rfl) | rfl) | rfl := h <;> assumption

theorem endsNumber_append (hb : ∀ c ∈ blanks, isSpace c = true) (h : EndsNumber rest) :
    EndsNumber (blanks ++ rest) := by
  cases blanks with
  | nil => exact h
  | cons c blanks =>
    have hc : c.isDigit = false ∧ c ∉ ['.', 'e', 'E'] :=
      of_isSpace (p := fun d => d.isDigit = false ∧ d ∉ ['.', 'e', 'E']) (by decide)
        (hb c List.mem_cons_self)
    exact endsNumber_cons hc.1 hc.2

theorem isSpace_of_isDigit (h : c.isDigit = true) : isSpace c = false := by
  refine Bool.eq_false_iff.2 fun hs => ?_
  have hd : c.isDigit = false := of_isSpace (p := (·.isDigit = false)) (by decide) hs
  exact absurd (h.symm.trans hd) (by decide)

/-- The first character of a value is neither white space nor a closing bracket. -/
theorem exists_cons_render (layout : Layout) {j : Json} (h : j.Plain) : ∃ c more,
    render layout j = c :: more ∧ isSpace c = false ∧ c ≠ ']' ∧ c ≠ '\x7d' := by
  match j with
  | .null => exact ⟨_, _, rfl, by decide⟩
  | .bool true | .bool false => exact ⟨_, _, rfl, by decide⟩
  | .str s => exact ⟨_, _, rfl, by decide⟩
  | .int (.ofNat n) =>
    obtain ⟨c, digits, hd, hc⟩ := exists_cons_toDigits n
    refine ⟨c, digits, ?_, isSpace_of_isDigit hc, ?_, ?_⟩
    · rw [render, intChars_ofNat, hd]
    · exact ne_of_isDigit hc rfl
    · exact ne_of_isDigit hc rfl
  | .int (.negSucc n) => exact ⟨_, _, by rw [render, intChars_negSucc], by decide⟩
  | .arr [] | .obj [] => exact ⟨_, _, rfl, by decide⟩
  | .arr (item :: rest) => exact ⟨'[', _, by rw [render]; rfl, by decide⟩
  | .obj ((name, value) :: rest) => exact ⟨'\x7b', _, by rw [render]; rfl, by decide⟩

theorem skipSpace_render {j : Json} (h : j.Plain) :
    skipSpace (render layout j ++ rest) = render layout j ++ rest := by
  obtain ⟨c, more, hc, hs, -⟩ := exists_cons_render layout h
  rw [hc, List.cons_append, skipSpace_cons hs]

theorem skipSpace_closing (hc : isSpace c = false) :
    skipSpace (layout.closing ++ c :: rest) = c :: rest := by
  rw [skipSpace_append isSpace_closing, skipSpace_cons hc]

theorem endsNumber_closing (hd : c.isDigit = false) (he : c ∉ ['.', 'e', 'E']) :
    EndsNumber (layout.closing ++ c :: rest) :=
  endsNumber_append isSpace_closing (endsNumber_cons hd he)

/-- No number goes on behind an item of a list. -/
theorem endsNumber_renderItems (layout : Layout) (items : List Json) (rest : List Char) :
    EndsNumber (renderItems layout items ++ (layout.closing ++ ']' :: rest)) := by
  cases items with
  | nil => exact endsNumber_closing rfl (by decide)
  | cons item items =>
    obtain ⟨blanks, hb, -⟩ := exists_between layout
    rw [renderItems, hb]
    exact endsNumber_cons rfl (by decide)

/-- No number goes on behind a field of an object. -/
theorem endsNumber_renderFields (layout : Layout) (fields : List (String × Json))
    (rest : List Char) :
    EndsNumber (renderFields layout fields ++ (layout.closing ++ '\x7d' :: rest)) := by
  cases fields with
  | nil => exact endsNumber_closing rfl (by decide)
  | cons field fields =>
    obtain ⟨blanks, hb, -⟩ := exists_between layout
    rw [renderFields, hb]
    exact endsNumber_cons rfl (by decide)

/-! ### Values -/

theorem readValue_of_scalar {j : Json}
    (h : ∃ c more, render layout j = c :: more ∧ c ≠ '[' ∧ c ≠ '\x7b')
    (hs : readScalar (fuel + 1) (render layout j ++ rest) = some (j, rest)) :
    readValue (fuel + 1) (render layout j ++ rest) = some (j, rest) := by
  obtain ⟨c, more, hc, hl, hr⟩ := h
  rw [hc, List.cons_append] at hs ⊢
  rw [readValue, hs]
  · exact fun _ h => hl (List.cons.inj h).1
  · exact fun _ h => hr (List.cons.inj h).1

theorem exists_cons_intChars (n : Int) :
    ∃ c more, intChars n = c :: more ∧ c ≠ '[' ∧ c ≠ '\x7b' := by
  cases n with
  | ofNat n =>
    obtain ⟨c, digits, hd, hc⟩ := exists_cons_toDigits n
    exact ⟨c, digits, (intChars_ofNat n).trans hd, ne_of_isDigit hc rfl,
      ne_of_isDigit hc rfl⟩
  | negSucc n => exact ⟨_, _, intChars_negSucc n, by decide⟩

theorem length_stringChars (s : String) : s.toList.length + 2 ≤ (stringChars s).length := by
  have h := length_le_escaped s.toList
  simp only [stringChars, List.length_append, List.length_cons, List.length_nil]
  omega

/-! One step into a list or an object, or through its items or fields. -/

section Step

variable {cs tail more text : List Char} {item value : Json} {items : List Json} {name : String}
  {fields : List (String × Json)}

theorem readValue_list (hs : skipSpace text = cs) (hne : ∀ rest, cs ≠ ']' :: rest)
    (hi : readItems fuel cs = some (items, more)) :
    readValue (fuel + 1) ('[' :: text) = some (.arr items, more) := by
  rw [readValue, hs]
  split
  · exact absurd rfl (hne _)
  · rw [hi]
    rfl

theorem readValue_object (hs : skipSpace text = stringChars name ++ tail)
    (hf : readFields fuel (stringChars name ++ tail) [] = some (fields, more)) :
    readValue (fuel + 1) ('\x7b' :: text) = some (.obj fields, more) := by
  rw [stringChars, List.cons_append, List.cons_append] at hs hf
  rw [readValue, hs]
  change (readFields fuel _ []).map _ = _
  rw [hf]
  rfl

theorem readItems_last (hv : readValue fuel cs = some (item, tail))
    (hs : skipSpace tail = ']' :: more) : readItems (fuel + 1) cs = some ([item], more) := by
  simp [readItems, hv, hs]

theorem readItems_next (hv : readValue fuel cs = some (item, tail))
    (hs : skipSpace tail = ',' :: text)
    (hi : readItems fuel (skipSpace text) = some (items, more)) :
    readItems (fuel + 1) cs = some (item :: items, more) := by
  simp [readItems, hv, hs, hi]

theorem readString_name (hl : name.toList.length ≤ fuel) :
    readString (fuel + 1) (name.toList.flatMap escapedChar ++ '"' :: rest) =
      some (name.toList, rest) :=
  readString_escaped (Nat.lt_succ_of_le hl)

theorem readFields_last (hl : name.toList.length ≤ fuel) (ht : skipSpace text = text)
    (hv : readValue fuel text = some (value, tail)) (hs : skipSpace tail = '\x7d' :: more) :
    readFields (fuel + 1) (stringChars name ++ ':' :: ' ' :: text) fields =
      some (Table.put fields name value, more) := by
  have hspace : skipSpace (' ' :: text) = text := ht
  simp [readFields, stringChars, readString_name hl, hspace, skipSpace_cons (c := ':') rfl, hv, hs]

theorem readFields_next (hl : name.toList.length ≤ fuel) (ht : skipSpace text = text)
    (hv : readValue fuel text = some (value, tail)) (hs : skipSpace tail = ',' :: more) :
    readFields (fuel + 1) (stringChars name ++ ':' :: ' ' :: text) fields =
      readFields fuel (skipSpace more) (Table.put fields name value) := by
  have hspace : skipSpace (' ' :: text) = text := ht
  simp [readFields, stringChars, readString_name hl, hspace, skipSpace_cons (c := ':') rfl, hv, hs]

end Step

/-! The reading of a rendered document. The fuel is a bound on the length of the text: a value uses
one unit for itself, and its items or fields have at least one character less. -/

mutual

theorem readValue_render : ∀ (fuel : Nat) (layout : Layout) (j : Json) (rest : List Char),
    j.Plain → (render layout j).length ≤ fuel → EndsNumber rest →
      readValue fuel (render layout j ++ rest) = some (j, rest)
  | 0, layout, j, rest, hj, hf, hr => by
    obtain ⟨c, more, hc, -⟩ := exists_cons_render layout hj
    rw [hc] at hf
    exact absurd hf (by simp)
  | fuel + 1, layout, .null, rest, hj, hf, hr =>
    readValue_of_scalar ⟨_, _, rfl, by decide⟩ readScalar_null
  | fuel + 1, layout, .bool b, rest, hj, hf, hr => by
    cases b
    · exact readValue_of_scalar ⟨_, _, rfl, by decide⟩ (readScalar_bool false)
    · exact readValue_of_scalar ⟨_, _, rfl, by decide⟩ (readScalar_bool true)
  | fuel + 1, layout, .int n, rest, hj, hf, hr => by
    rw [Plain] at hj
    refine readValue_of_scalar ?_ ?_
    · rw [render]
      exact exists_cons_intChars n
    · rw [render]
      exact readScalar_int hj hr
  | fuel + 1, layout, .str s, rest, hj, hf, hr => by
    refine readValue_of_scalar ⟨_, _, rfl, by decide⟩ (readScalar_str s ?_)
    have h := length_stringChars s
    rw [render] at hf
    omega
  | fuel + 1, layout, .arr [], rest, hj, hf, hr => rfl
  | fuel + 1, layout, .arr (item :: items), rest, hj, hf, hr => by
    rw [Plain, PlainItems] at hj
    have htext : render layout (.arr (item :: items)) ++ rest =
        '[' :: (layout.opening ++ (render layout.deeper item ++
          (renderItems layout items ++ (layout.closing ++ ']' :: rest)))) := by
      simp [render]
    have hitems := readItems_render fuel layout item items rest hj.1 hj.2 (by
      simp only [render, List.length_append, List.length_cons] at hf ⊢
      omega)
    rw [htext]
    refine readValue_list ((skipSpace_append isSpace_opening).trans (skipSpace_render hj.1))
      (fun others he => ?_) hitems
    -- the first item is not taken for the end of the list
    obtain ⟨c, more, hc, -, hne, -⟩ := exists_cons_render layout.deeper hj.1
    rw [hc] at he
    exact hne (List.cons.inj he).1
  | fuel + 1, layout, .obj [], rest, hj, hf, hr => rfl
  | fuel + 1, layout, .obj ((name, value) :: fields), rest, hj, hf, hr => by
    rw [Plain, PlainFields] at hj
    have htext : render layout (.obj ((name, value) :: fields)) ++ rest =
        '\x7b' :: (layout.opening ++ (stringChars name ++ ':' :: ' ' ::
          (render layout.deeper value ++
            (renderFields layout fields ++ (layout.closing ++ '\x7d' :: rest))))) := by
      simp [render]
    have hfields := readFields_render fuel layout name value fields [] rest hj.1 hj.2.1 hj.2.2 (by
      simp only [render, List.length_append, List.length_cons] at hf ⊢
      omega)
    rw [htext]
    exact readValue_object ((skipSpace_append isSpace_opening).trans (skipSpace_cons rfl)) hfields

theorem readItems_render : ∀ (fuel : Nat) (layout : Layout) (item : Json) (items : List Json)
    (rest : List Char), item.Plain → PlainItems items →
    (render layout.deeper item ++ renderItems layout items).length < fuel →
      readItems fuel (render layout.deeper item ++
        (renderItems layout items ++ (layout.closing ++ ']' :: rest))) = some (item :: items, rest)
  | 0, layout, item, items, rest, hitem, hitems, hf => absurd hf (Nat.not_lt_zero _)
  | fuel + 1, layout, item, items, rest, hitem, hitems, hf => by
    rw [List.length_append] at hf
    have hv := readValue_render fuel layout.deeper item _ hitem (by omega)
      (endsNumber_renderItems layout items rest)
    match items with
    | [] => exact readItems_last hv (skipSpace_closing rfl)
    | next :: items =>
      rw [PlainItems] at hitems
      obtain ⟨blanks, hb, hblanks⟩ := exists_between layout
      have htail : renderItems layout (next :: items) ++ (layout.closing ++ ']' :: rest) =
          ',' :: (blanks ++ (render layout.deeper next ++
            (renderItems layout items ++ (layout.closing ++ ']' :: rest)))) := by
        simp [renderItems, hb]
      have hnext := readItems_render fuel layout next items rest hitems.1 hitems.2 (by
        simp only [renderItems, hb, List.length_append, List.length_cons] at hf ⊢
        omega)
      rw [← skipSpace_render hitems.1, ← skipSpace_append hblanks] at hnext
      exact readItems_next hv (htail ▸ skipSpace_cons rfl) hnext

theorem readFields_render : ∀ (fuel : Nat) (layout : Layout) (name : String) (value : Json)
    (fields before : List (String × Json)) (rest : List Char),
    (Table.names (before ++ (name, value) :: fields)).Nodup → value.Plain → PlainFields fields →
    (stringChars name ++ render layout.deeper value ++ renderFields layout fields).length < fuel →
      readFields fuel (stringChars name ++ ':' :: ' ' :: (render layout.deeper value ++
        (renderFields layout fields ++ (layout.closing ++ '\x7d' :: rest)))) before =
          some (before ++ (name, value) :: fields, rest)
  | 0, layout, name, value, fields, before, rest, hd, hvalue, hfields, hf =>
    absurd hf (Nat.not_lt_zero _)
  | fuel + 1, layout, name, value, fields, before, rest, hd, hvalue, hfields, hf => by
    have hl := length_stringChars name
    rw [List.length_append, List.length_append] at hf
    have hname : name ∉ Table.names before := by
      rw [Table.names_append, List.nodup_append] at hd
      exact fun hm => hd.2.2 _ hm _ List.mem_cons_self rfl
    have hput : Table.put before name value = before ++ [(name, value)] := Table.put_eq_append hname
    have hread := readValue_render fuel layout.deeper value _ hvalue (by omega)
      (endsNumber_renderFields layout fields rest)
    match fields with
    | [] =>
      rw [← hput]
      exact readFields_last (by omega) (skipSpace_render hvalue) hread (skipSpace_closing rfl)
    | (next, nextValue) :: fields =>
      rw [PlainFields] at hfields
      obtain ⟨blanks, hb, hblanks⟩ := exists_between layout
      have htail : renderFields layout ((next, nextValue) :: fields) ++
          (layout.closing ++ '\x7d' :: rest) =
            ',' :: (blanks ++ (stringChars next ++ ':' :: ' ' :: (render layout.deeper nextValue ++
              (renderFields layout fields ++ (layout.closing ++ '\x7d' :: rest))))) := by
        simp [renderFields, hb]
      have hnext := readFields_render fuel layout next nextValue fields
        (before ++ [(name, value)]) rest (by simpa using hd) hfields.1 hfields.2 (by
          simp only [renderFields, hb, List.length_append, List.length_cons] at hf ⊢
          omega)
      rw [htail] at hread ⊢
      rw [readFields_next (by omega) (skipSpace_render hvalue) hread (skipSpace_cons rfl), hput,
        skipSpace_append hblanks]
      simpa [stringChars, skipSpace_cons (c := '"') rfl] using hnext

end

/-- Whatever its layout, the text of a document is read as the document. -/
theorem read_write {j : Json} (h : j.Plain) (indent : Option Nat) :
    read (write indent j) = some j := by
  have hv := readValue_render (2 * (render ⟨indent, 0⟩ j).length + 2) ⟨indent, 0⟩ j [] h (by omega)
    (by simp [EndsNumber])
  rw [← skipSpace_render h, List.append_nil] at hv
  simp only [read, write, String.toList_ofList, hv]
  rfl

end ScenarioCompiler.Json
