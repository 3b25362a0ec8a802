import ScenarioCompiler.Proofs.Json.Names
import ScenarioCompiler.Proofs.Yaml.Scalars

namespace ScenarioCompiler.Yaml.Lexer

open Cursor Writer

variable {l m : Lexer} {c : Cursor} {tail rest : List Char} {allowed : Bool} {indent : Int}
  {indents indents' : List Int} {queue queue' : List Token} {i k column depth : Nat} {value : Json}

/-! ### Empty lists and mappings -/

/-- The signs and the tokens of an empty list or mapping. -/
inductive Brackets : (opening closing : Char) → (start stop : Token) → Prop
  | list : Brackets '[' ']' .flowSequenceStart .flowSequenceEnd
  | mapping : Brackets '\x7b' '\x7d' .flowMappingStart .flowMappingEnd

variable {opening closing : Char} {start stop : Token}

theorem Brackets.startsToken (h : Brackets opening closing start stop) (more : List Char) :
    StartsToken (opening :: more) ∧ StartsToken (closing :: more) := by
  cases h <;>
    exact ⟨startsToken_cons (by decide) (by decide) fun h => absurd h (by decide),
      startsToken_cons (by decide) (by decide) fun h => absurd h (by decide)⟩

theorem Brackets.isInline (h : Brackets opening closing start stop) : IsInline opening := by
  cases h <;> decide

theorem Brackets.fetchAt_opening (h : Brackets opening closing start stop)
    (hs : StartsToken l.cursor.rest) : l.fetchAt opening = l.fetchFlowStart start := by
  cases h <;> simp [fetchAt, atMark_eq_false hs.dashes, atMark_eq_false hs.dots]

theorem Brackets.fetchAt_closing (h : Brackets opening closing start stop)
    (hs : StartsToken l.cursor.rest) : l.fetchAt closing = l.fetchFlowEnd stop := by
  cases h <;> simp [fetchAt, atMark_eq_false hs.dashes, atMark_eq_false hs.dots]

/-- A lexer between two brackets. -/
def inBrackets (c : Cursor) (keys : List (Nat × PossibleKey)) (indent : Int) (indents : List Int)
    (queue : List Token) : Lexer := { resting c true keys indent indents queue with flowDepth := 1 }

theorem Brackets.reaches_inside (h : Brackets opening closing start stop)
    (hi : indent ≤ c.column) (hr : c.rest = opening :: closing :: tail) :
    Reaches (resting c allowed [] indent indents queue)
      (inBrackets c.step (savedKeys c allowed indent queue) indent indents (queue ++ [start])) := by
  have hstart : StartsToken c.rest := hr ▸ (h.startsToken _).1
  refine .step runs_resting_nil (ready_resting_self hstart hi nofun) ?_ ?_ ?_
  · rw [dispatch_eq hr, h.fetchAt_opening hstart, fetchFlowStart, saveKey_resting]
    rfl
  · simp [resting, inBrackets]
  · intro key hk
    rw [(mem_savedKeys hk).2]
    exact .inr (Nat.le_refl _)

theorem Brackets.reaches_behind (h : Brackets opening closing start stop)
    (hr : c.rest = opening :: closing :: tail) :
    Reaches
      (inBrackets c.step (savedKeys c allowed indent queue) indent indents (queue ++ [start]))
      (resting c.step.step false (savedKeys c allowed indent queue) indent indents
        (queue ++ [start, stop])) := by
  have hstep : c.step.rest = closing :: tail := by rw [step_rest, hr]; rfl
  have hstart : StartsToken c.step.rest := hstep ▸ (h.startsToken _).2
  have hcursor := step_of_inline hr h.isInline
  have hstale : ∀ key ∈ savedKeys c allowed indent queue,
      (inBrackets c.step (savedKeys c allowed indent queue) indent indents
        (queue ++ [start])).isStale key.2 = false := by
    intro key hk
    obtain ⟨-, rfl⟩ := mem_savedKeys hk
    simp [isStale, inBrackets, resting, possibleKey, hcursor]
  refine .step ⟨rfl, fun key hk => ?_⟩ (ready_eq_self hstart hstale rfl) ?_ ?_ ?_
  · obtain ⟨-, rfl⟩ := mem_savedKeys hk
    exact (before_step c).line
  · rw [dispatch_eq hstep, h.fetchAt_closing hstart, fetchFlowEnd]
    have hkeys : (savedKeys c allowed indent queue).lookup 1 = none := by
      cases allowed <;> rfl
    have hdrop : (inBrackets c.step (savedKeys c allowed indent queue) indent indents
        (queue ++ [start])).dropKey = .ok (inBrackets c.step (savedKeys c allowed indent queue)
          indent indents (queue ++ [start])) := by
      simp [dropKey, inBrackets, resting, hkeys]
    rw [hdrop, ok_bind]
    simp [inBrackets, resting, emitSign, forward]
  · simp [resting, inBrackets]
  · exact fun key hk => .inl hk

theorem Brackets.reachesLine (h : Brackets opening closing start stop) (he : LineEnd tail k rest)
    (hi : indent ≤ c.column) (ha : allowed = true → indent ≠ c.column)
    (hr : c.rest = opening :: closing :: tail) :
    ReachesLine (resting c allowed [] indent indents queue) k rest indent indents
      (queue ++ [start, stop]) := by
  have hbehind : c.step.step.rest = '\n' :: (List.replicate k ' ' ++ rest) := by
    rw [step_rest, step_rest, hr, ← he.eq]
    rfl
  have hline := forward_line hbehind
  have hkeys : ∀ key ∈ savedKeys c allowed indent queue,
      key.2.required = false ∧ key.2.line ≤ c.step.step.line := by
    intro key hm
    obtain ⟨hallowed, rfl⟩ := mem_savedKeys hm
    exact ⟨beq_false_of_ne (ha hallowed), (before_forward 2 c).line⟩
  exact ⟨_, congrArg Cursor.rest hline, congrArg Cursor.column hline,
    (h.reaches_inside hi hr).trans ((h.reaches_behind hr).trans
      (reaches_line hbehind he.start hkeys))⟩

/-! ### Values, lists and mappings -/

theorem LineEnd.endsScalar (h : LineEnd tail k rest) : EndsScalar tail := by
  rw [h.eq]
  intro x hx
  cases hx
  decide

theorem reachesLine_scalar {i : Nat} (hs : IsScalar value) (hw : i + 2 < width)
    (he : LineEnd tail k rest) (hk : k ≤ i) (hi : i ≤ c.column)
    (ha : allowed = true → (i : Int) ≠ c.column)
    (hr : c.rest = scalarChars (i + 2) column value ++ tail) :
    ReachesLine (resting c allowed [] i indents queue) k rest i indents
      (queue ++ [scalarToken value]) := by
  rw [scalarChars_eq hs] at hr
  exact reachesLine_textChars (suits_spelling hs) (p := ⟨i + 2, true⟩)
    (Int.ofNat_lt.2 (Nat.lt_add_of_pos_right (by decide))) ⟨Nat.succ_pos _, hw⟩ he
    (Int.ofNat_le.2 hk) (Int.ofNat_le.2 hi) ha hr

/-- The lines behind the first item or entry. -/
theorem itemsChars_next (i : Nat) {item : Json} {items : List Json} :
    itemsChars i false (item :: items) = newLine i ++ itemsChars i true (item :: items) := by
  simp [itemsChars]

theorem fieldsChars_next (i : Nat) {field : String × Json} {fields : List (String × Json)} :
    fieldsChars i false (field :: fields) = newLine i ++ fieldsChars i true (field :: fields) := by
  simp [fieldsChars]

theorem startsToken_itemsChars (i : Nat) {item : Json} {items : List Json} :
    StartsToken (itemsChars i true (item :: items) ++ tail) := by
  rw [itemsChars]
  exact startsToken_sign (by decide)

theorem startsToken_fieldsChars (i : Nat) {field : String × Json} {fields : List (String × Json)} :
    StartsToken (fieldsChars i true (field :: fields) ++ tail) := by
  obtain ⟨key, value⟩ := field
  rw [fieldsChars, if_pos rfl, List.nil_append]
  split
  · rw [List.append_assoc, List.append_assoc, simpleKeyChars]
    refine startsToken_textChars (suits_styleOf true key) (fun x hx => ?_) _ _
    cases hx
    decide
  · exact startsToken_sign (by decide)

theorem lineEnd_items (i : Nat) {item : Json} {items : List Json} :
    LineEnd (itemsChars i false (item :: items) ++ tail) i
      (itemsChars i true (item :: items) ++ tail) := by
  refine ⟨?_, startsToken_itemsChars i⟩
  rw [itemsChars_next, newLine, List.append_assoc]
  rfl

theorem lineEnd_fields (i : Nat) {field : String × Json} {fields : List (String × Json)} :
    LineEnd (fieldsChars i false (field :: fields) ++ tail) i
      (fieldsChars i true (field :: fields) ++ tail) := by
  refine ⟨?_, startsToken_fieldsChars i⟩
  rw [fieldsChars_next, newLine, List.append_assoc]
  rfl

theorem startsToken_scalarChars (hs : IsScalar value) (ht : EndsScalar tail) (i column : Nat) :
    StartsToken (scalarChars i column value ++ tail) := by
  rw [scalarChars_eq hs]
  exact startsToken_textChars (suits_spelling hs) ht _ _

theorem startsToken_nestedChars {p : String → Prop} (h : value.Keyed p depth)
    (ht : EndsScalar tail) : StartsToken (nestedChars i value ++ tail) := by
  match value with
  | .null | .bool _ | .int _ | .str _ =>
    rw [nestedChars]
    exact startsToken_scalarChars (by trivial) ht _ _
  | .float _ => exact h.plain.elim
  | .arr [] => exact (Brackets.list.startsToken _).1
  | .arr (_ :: _) => exact startsToken_itemsChars _
  | .obj [] => exact (Brackets.mapping.startsToken _).1
  | .obj (_ :: _) => exact startsToken_fieldsChars _

/-- What stands behind the colon of a key. -/
theorem isBlankOrEnd_valueChars (i column : Nat) (value : Json) (more : List Char) :
    isBlankOrEnd (valueChars i column value ++ more).head? = true := by
  match value with
  | .null | .bool _ | .int _ | .str _ | .float _ => rfl
  | .arr [] => rfl
  | .arr (_ :: _) => rfl
  | .obj [] => rfl
  | .obj (_ :: _) => rfl

/-- A value behind the colon of its key is read up to the next line. -/
def ReadsValue (i : Nat) (value : Json) : Prop :=
  ∀ ⦃column k : Nat⦄ ⦃c : Cursor⦄ ⦃tail rest : List Char⦄ ⦃indents : List Int⦄
    ⦃queue : List Token⦄, LineEnd tail k rest → k ≤ i → i ≤ c.column →
    c.rest = valueChars i column value ++ tail →
    ReachesLine (resting c false [] i indents queue) k rest i indents
      (queue ++ nodeTokens true value)

/-- A value behind a sign is read up to the next line. -/
def ReadsNested (i : Nat) (value : Json) : Prop :=
  ∀ ⦃k : Nat⦄ ⦃c : Cursor⦄ ⦃tail rest : List Char⦄ ⦃indents : List Int⦄ ⦃queue : List Token⦄,
    LineEnd tail k rest → k ≤ i → c.column = i + 2 → c.rest = nestedChars i value ++ tail →
    ReachesLine (resting c true [] i indents queue) k rest i indents
      (queue ++ nodeTokens false value)

/-- Items are read up to the line behind the last one. -/
def ReadsItems (i : Nat) (items : List Json) : Prop :=
  ∀ ⦃k : Nat⦄ ⦃c : Cursor⦄ ⦃tail rest : List Char⦄ ⦃indent : Int⦄ ⦃indents indents' : List Int⦄
    ⦃queue queue' : List Token⦄, LineEnd tail k rest → k ≤ i → c.column = i →
    Opens .blockSequenceStart i indent indents queue indents' queue' →
    c.rest = itemsChars i true items ++ tail →
    ReachesLine (resting c true [] indent indents queue) k rest i indents'
      (queue' ++ itemsTokens items)

/-- Entries are read up to the line behind the last one. -/
def ReadsFields (i : Nat) (fields : List (String × Json)) : Prop :=
  ∀ ⦃k : Nat⦄ ⦃c : Cursor⦄ ⦃tail rest : List Char⦄ ⦃indent : Int⦄ ⦃indents indents' : List Int⦄
    ⦃queue queue' : List Token⦄, LineEnd tail k rest → k ≤ i → c.column = i →
    Opens .blockMappingStart i indent indents queue indents' queue' →
    c.rest = fieldsChars i true fields ++ tail →
    ReachesLine (resting c true [] indent indents queue) k rest i indents'
      (queue' ++ fieldsTokens fields)

variable {items : List Json} {fields : List (String × Json)}

theorem nestedChars_arr (hn : items ≠ []) (i : Nat) :
    nestedChars i (.arr items) = itemsChars (i + 2) true items := by
  cases items with
  | nil => exact absurd rfl hn
  | cons item items => rfl

theorem nestedChars_obj (hn : fields ≠ []) (i : Nat) :
    nestedChars i (.obj fields) = fieldsChars (i + 2) true fields := by
  cases fields with
  | nil => exact absurd rfl hn
  | cons field fields => rfl

theorem readsValue_scalar (hs : IsScalar value) (hw : i + 2 < width) : ReadsValue i value := by
  intro column k c tail rest indents queue he hk hi hr
  rw [valueChars_scalar hs] at hr
  rw [nodeTokens_scalar hs]
  have hblank : Reaches (resting c false [] i indents queue)
      (resting c.step false [] i indents queue) :=
    reaches_blank hr (startsToken_scalarChars hs he.endsScalar _ _)
  have hcolumn := column_step hr (by decide)
  exact hblank.line (reachesLine_scalar hs hw he hk (by omega) nofun (by rw [step_rest, hr]; rfl))

theorem readsNested_scalar (hs : IsScalar value) (hw : i + 2 < width) : ReadsNested i value := by
  intro k c tail rest indents queue he hk hc hr
  rw [nestedChars_scalar hs] at hr
  rw [nodeTokens_scalar hs]
  exact reachesLine_scalar hs hw he hk (by omega) (fun _ => by omega) hr

/-- A list stands at the indentation of its key. -/
theorem exists_reaches_items (hn : items ≠ []) {column : Nat}
    (hr : c.rest = valueChars i column (.arr items) ++ tail) :
    ∃ d : Cursor, d.rest = itemsChars i true items ++ tail ∧ d.column = i ∧
      Reaches (resting c false [] i indents queue) (resting d true [] i indents queue) := by
  cases items with
  | nil => exact absurd rfl hn
  | cons item items =>
    have hr : c.rest =
        '\n' :: (List.replicate i ' ' ++ (itemsChars i true (item :: items) ++ tail)) := by
      rw [hr, valueChars, newLine]
      simp
    have hline := forward_line hr
    exact ⟨_, congrArg Cursor.rest hline, congrArg Cursor.column hline,
      reaches_line hr (startsToken_itemsChars i) nofun⟩

/-- The entries of a mapping are indented more than its key. -/
theorem exists_reaches_fields (hn : fields ≠ []) {column : Nat}
    (hr : c.rest = valueChars i column (.obj fields) ++ tail) :
    ∃ d : Cursor, d.rest = fieldsChars (i + 2) true fields ++ tail ∧ d.column = i + 2 ∧
      Reaches (resting c false [] i indents queue) (resting d true [] i indents queue) := by
  cases fields with
  | nil => exact absurd rfl hn
  | cons field fields =>
    have hr : c.rest = '\n' :: (List.replicate (i + 2) ' ' ++
        (fieldsChars (i + 2) true (field :: fields) ++ tail)) := by
      rw [hr, valueChars, newLine]
      simp
    have hline := forward_line hr
    exact ⟨_, congrArg Cursor.rest hline, congrArg Cursor.column hline,
      reaches_line hr (startsToken_fieldsChars (i + 2)) nofun⟩

theorem readsValue_arr (h : items ≠ [] → ReadsItems i items) : ReadsValue i (.arr items) := by
  intro column k c tail rest indents queue he hk hi hr
  cases items with
  | nil =>
    have hr : c.rest = ' ' :: '[' :: ']' :: tail := hr
    have hblank : Reaches (resting c false [] i indents queue)
      (resting c.step false [] i indents queue) :=
      reaches_blank hr (Brackets.list.startsToken _).1
    have hcolumn := column_step hr (by decide)
    exact hblank.line (Brackets.list.reachesLine he (by omega) nofun (by rw [step_rest, hr]; rfl))
  | cons item items =>
    have hn : item :: items ≠ [] := List.cons_ne_nil _ _
    obtain ⟨d, hd, hcolumn, hnew⟩ := exists_reaches_items hn hr
    exact hnew.line (h hn he hk hcolumn
      (.already : Opens .blockSequenceStart i i indents queue indents queue) hd)

theorem readsNested_arr (h : items ≠ [] → ReadsItems (i + 2) items) :
    ReadsNested i (.arr items) := by
  intro k c tail rest indents queue he hk hc hr
  cases items with
  | nil => exact Brackets.list.reachesLine he (by omega) (fun _ => by omega) hr
  | cons item items =>
    have hopen : Opens .blockSequenceStart (i + 2 : Nat) i indents queue (i :: indents)
        (queue ++ [.blockSequenceStart]) := .opened (by omega)
    have hitems := (h (by simp) he (by omega) hc hopen hr).close he.start (by omega)
    simpa [nodeTokens] using hitems

theorem readsValue_obj (h : fields ≠ [] → ReadsFields (i + 2) fields) :
    ReadsValue i (.obj fields) := by
  intro column k c tail rest indents queue he hk hi hr
  cases fields with
  | nil =>
    have hr : c.rest = ' ' :: '\x7b' :: '\x7d' :: tail := hr
    have hblank : Reaches (resting c false [] i indents queue)
        (resting c.step false [] i indents queue) :=
      reaches_blank hr (Brackets.mapping.startsToken _).1
    have hcolumn := column_step hr (by decide)
    exact hblank.line
      (Brackets.mapping.reachesLine he (by omega) nofun (by rw [step_rest, hr]; rfl))
  | cons field fields =>
    have hn : field :: fields ≠ [] := List.cons_ne_nil _ _
    have hopen : Opens .blockMappingStart (i + 2 : Nat) i indents queue (i :: indents)
        (queue ++ [.blockMappingStart]) := .opened (by omega)
    obtain ⟨d, hd, hcolumn, hnew⟩ := exists_reaches_fields hn hr
    have hfields := (h hn he (by omega) hcolumn hopen hd).close he.start (by omega)
    simpa [nodeTokens] using hnew.line hfields

theorem readsNested_obj (h : fields ≠ [] → ReadsFields (i + 2) fields) :
    ReadsNested i (.obj fields) := by
  intro k c tail rest indents queue he hk hc hr
  cases fields with
  | nil => exact Brackets.mapping.reachesLine he (by omega) (fun _ => by omega) hr
  | cons field fields =>
    have hopen : Opens .blockMappingStart (i + 2 : Nat) i indents queue (i :: indents)
        (queue ++ [.blockMappingStart]) := .opened (by omega)
    have hfields := (h (by simp) he (by omega) hc hopen hr).close he.start (by omega)
    simpa [nodeTokens] using hfields

/-- What stands behind an item: the end of the list, or the next item. -/
theorem ReadsItems.behind (h : items ≠ [] → ReadsItems i items) (he : LineEnd tail k rest)
    (hk : k ≤ i)
    (hl : ∀ {k : Nat} {rest : List Char}, LineEnd (itemsChars i false items ++ tail) k rest →
      k ≤ i → ReachesLine l k rest i indents queue) :
    ReachesLine l k rest i indents (queue ++ itemsTokens items) := by
  cases items with
  | nil =>
    rw [itemsTokens, List.append_nil]
    exact hl he hk
  | cons item items =>
    obtain ⟨c, hr, hc, hreach⟩ := hl (lineEnd_items i) (Nat.le_refl i)
    exact hreach.line (h (by simp) he hk hc .already hr)

theorem ReadsFields.behind (h : fields ≠ [] → ReadsFields i fields) (he : LineEnd tail k rest)
    (hk : k ≤ i)
    (hl : ∀ {k : Nat} {rest : List Char}, LineEnd (fieldsChars i false fields ++ tail) k rest →
      k ≤ i → ReachesLine l k rest i indents queue) :
    ReachesLine l k rest i indents (queue ++ fieldsTokens fields) := by
  cases fields with
  | nil =>
    rw [fieldsTokens, List.append_nil]
    exact hl he hk
  | cons field fields =>
    obtain ⟨c, hr, hc, hreach⟩ := hl (lineEnd_fields i) (Nat.le_refl i)
    exact hreach.line (h (by simp) he hk hc .already hr)

/-- A sign stands two columns in front of what belongs to it. -/
theorem Reaches.behindSign {sign : Char}
    (h : Reaches l (resting c.step true [] indent indents queue))
    (hr : c.rest = sign :: ' ' :: rest) (hi : IsInline sign) (hs : StartsToken rest) :
    ∃ d : Cursor, d.rest = rest ∧ d.column = c.column + 2 ∧
      Reaches l (resting d true [] indent indents queue) := by
  have hstep : c.step.rest = ' ' :: rest := by rw [step_rest, hr]; rfl
  refine ⟨c.step.step, by rw [step_rest, hstep]; rfl, ?_, h.trans (reaches_blank hstep hs)⟩
  rw [column_step hstep (by decide), column_step hr hi]

/-- An item stands behind its dash. -/
theorem exists_reaches_item {p : String → Prop} (hv : value.Keyed p depth)
    (he : LineEnd (itemsChars c.column false items ++ tail) k rest)
    (ho : Opens .blockSequenceStart c.column indent indents queue indents' queue')
    (hr : c.rest = itemsChars c.column true (value :: items) ++ tail) :
    ∃ d : Cursor, d.rest = nestedChars c.column value ++ (itemsChars c.column false items ++ tail) ∧
      d.column = c.column + 2 ∧ Reaches (resting c true [] indent indents queue)
        (resting d true [] c.column indents' (queue' ++ [.blockEntry])) := by
  have hr : c.rest = '-' :: ' ' :: (nestedChars c.column value ++
      (itemsChars c.column false items ++ tail)) := by
    rw [hr, itemsChars]
    simp
  exact (reaches_entry hr ho).behindSign hr (by decide) (startsToken_nestedChars hv he.endsScalar)

theorem readsItems_cons {p : String → Prop} (hv : value.Keyed p depth) (h : ReadsNested i value)
    (h' : items ≠ [] → ReadsItems i items) : ReadsItems i (value :: items) := by
  intro k c tail rest indent indents indents' queue queue' he hk hc ho hr
  subst hc
  have hitem : ReachesLine (resting c true [] indent indents queue) k rest c.column indents'
      (queue' ++ [.blockEntry] ++ nodeTokens false value ++ itemsTokens items) := by
    refine ReadsItems.behind h' he hk fun he' hk' => ?_
    obtain ⟨d, hd, hcolumn, hreach⟩ := exists_reaches_item hv he' ho hr
    exact hreach.line (h he' hk' hcolumn hd)
  simpa [itemsTokens] using hitem

theorem fieldsChars_simple {key : String} (hs : isSimpleKey key = true) :
    fieldsChars i true ((key, value) :: fields) ++ tail =
      simpleKeyChars i key ++ ':' :: (valueChars i (i + (simpleKeyChars i key).length + 1) value ++
        (fieldsChars i false fields ++ tail)) := by
  rw [fieldsChars, if_pos hs]
  simp

theorem fieldsChars_complex {key : String} (hs : isSimpleKey key = false) :
    fieldsChars i true ((key, value) :: fields) ++ tail =
      '?' :: ' ' :: (scalarChars (i + 2) (i + 2) (.str key) ++
        '\n' :: (List.replicate i ' ' ++ ':' :: ' ' :: (nestedChars i value ++
          (fieldsChars i false fields ++ tail)))) := by
  rw [fieldsChars, hs]
  simp [newLine]

theorem readsFields_simple {key : String} (hs : isSimpleKey key = true) (hfits : KeyFits key)
    (hw : i + 2 < width) (h : ReadsValue i value) (h' : fields ≠ [] → ReadsFields i fields) :
    ReadsFields i ((key, value) :: fields) := by
  intro k c tail rest indent indents indents' queue queue' he hk hc ho hr
  subst hc
  rw [fieldsChars_simple hs] at hr
  obtain ⟨d, hd, hcolumn, hkey⟩ :=
    exists_reaches_simpleKey hs hfits hw (isBlankOrEnd_valueChars _ _ _ _) ho hr
  have hfield : ReachesLine (resting c true [] indent indents queue) k rest c.column indents'
      (queue' ++ [.key, textToken true key, .value] ++ nodeTokens true value ++
        fieldsTokens fields) :=
    ReadsFields.behind h' he hk fun he' hk' => hkey.line (h he' hk' hcolumn hd)
  simpa [fieldsTokens, hs] using hfield

theorem reachesLine_question {key : String} (hw : c.column + 2 < width) (he : LineEnd tail k rest)
    (hk : k ≤ c.column)
    (ho : Opens .blockMappingStart c.column indent indents queue indents' queue')
    (hr : c.rest = '?' :: ' ' ::
      (scalarChars (c.column + 2) (c.column + 2) (.str key) ++ tail)) :
    ReachesLine (resting c true [] indent indents queue) k rest c.column indents'
      (queue' ++ [.key, textToken false key]) := by
  have hs : IsScalar (.str key) := trivial
  obtain ⟨d, hd, hcolumn, hreach⟩ := (reaches_question hr ho).behindSign hr (by decide)
    (startsToken_scalarChars hs he.endsScalar _ _)
  have hkey : ReachesLine (resting c true [] indent indents queue) k rest c.column indents'
      (queue' ++ [.key] ++ [textToken false key]) :=
    hreach.line (reachesLine_scalar hs hw he hk (by omega) (fun _ => by omega) hd)
  simpa using hkey

theorem exists_reaches_nested {p : String → Prop} (hv : value.Keyed p depth)
    (he : LineEnd tail k rest) (hc : c.column = i)
    (hr : c.rest = ':' :: ' ' :: (nestedChars i value ++ tail)) :
    ∃ d : Cursor, d.rest = nestedChars i value ++ tail ∧ d.column = i + 2 ∧
      Reaches (resting c true [] i indents queue)
        (resting d true [] i indents (queue ++ [.value])) := by
  subst hc
  exact (reaches_colon hr).behindSign hr (by decide) (startsToken_nestedChars hv he.endsScalar)

theorem reachesLine_colon {p : String → Prop} (hv : value.Keyed p depth)
    (h : ReadsNested i value) (he : LineEnd tail k rest) (hk : k ≤ i) (hc : c.column = i)
    (hr : c.rest = ':' :: ' ' :: (nestedChars i value ++ tail)) :
    ReachesLine (resting c true [] i indents queue) k rest i indents
      (queue ++ [.value] ++ nodeTokens false value) := by
  obtain ⟨d, hd, hcolumn, hreach⟩ := exists_reaches_nested hv he hc hr
  exact hreach.line (h he hk hcolumn hd)

/-- A key that does not share its line stands behind a sign, and so does its value. -/
theorem readsFields_complex {key : String} (hs : isSimpleKey key = false) (hw : i + 2 < width)
    {p : String → Prop} (hv : value.Keyed p depth) (h : ReadsNested i value)
    (h' : fields ≠ [] → ReadsFields i fields) : ReadsFields i ((key, value) :: fields) := by
  intro k c tail rest indent indents indents' queue queue' he hk hc ho hr
  subst hc
  rw [fieldsChars_complex hs] at hr
  obtain ⟨d, hd, hcolumn, hkey⟩ := reachesLine_question hw ⟨rfl, startsToken_sign (by decide)⟩
    (Nat.le_refl _) ho hr
  have hfield : ReachesLine (resting c true [] indent indents queue) k rest c.column indents'
      (queue' ++ [.key, textToken false key] ++ [.value] ++ nodeTokens false value ++
        fieldsTokens fields) := by
    exact ReadsFields.behind h' he hk fun he' hk' =>
      hkey.line (reachesLine_colon hv h he' hk' hcolumn hd)
  simpa [fieldsTokens, hs] using hfield

mutual

theorem readsValue : ∀ (value : Json) {depth i : Nat}, value.Keyed KeyFits depth →
    i + 2 * depth + 2 < width → ReadsValue i value
  | .null, _, _, _, hw | .bool _, _, _, _, hw | .int _, _, _, _, hw | .str _, _, _, _, hw =>
    readsValue_scalar (by trivial) (by omega)
  | .float _, _, _, h, _ => h.plain.elim
  | .arr items, depth + 1, i, h, hw =>
    readsValue_arr fun hn => readsItems items hn (Json.keyed_arr.1 h) (by omega)
  | .obj fields, depth + 1, i, h, hw =>
    readsValue_obj fun hn => readsFields fields hn (Json.keyed_obj.1 h).2 (by omega)
  | .arr _, 0, _, h, _ | .obj _, 0, _, h, _ => absurd h.height (Nat.not_succ_le_zero _)

theorem readsNested : ∀ (value : Json) {depth i : Nat}, value.Keyed KeyFits depth →
    i + 2 * depth + 2 < width → ReadsNested i value
  | .null, _, _, _, hw | .bool _, _, _, _, hw | .int _, _, _, _, hw | .str _, _, _, _, hw =>
    readsNested_scalar (by trivial) (by omega)
  | .float _, _, _, h, _ => h.plain.elim
  | .arr items, depth + 1, i, h, hw =>
    readsNested_arr fun hn => readsItems items hn (Json.keyed_arr.1 h) (by omega)
  | .obj fields, depth + 1, i, h, hw =>
    readsNested_obj fun hn => readsFields fields hn (Json.keyed_obj.1 h).2 (by omega)
  | .arr _, 0, _, h, _ | .obj _, 0, _, h, _ => absurd h.height (Nat.not_succ_le_zero _)

theorem readsItems : ∀ (items : List Json) {depth i : Nat}, items ≠ [] →
    (∀ item ∈ items, item.Keyed KeyFits depth) → i + 2 * depth + 2 < width → ReadsItems i items
  | [], _, _, hn, _, _ => absurd rfl hn
  | item :: rest, _, _, _, h, hw =>
    readsItems_cons (h item List.mem_cons_self) (readsNested item (h item List.mem_cons_self) hw)
      fun hn => readsItems rest hn (fun x hx => h x (List.mem_cons_of_mem _ hx)) hw

theorem readsFields : ∀ (fields : List (String × Json)) {depth i : Nat}, fields ≠ [] →
    (∀ field ∈ fields, KeyFits field.1 ∧ field.2.Keyed KeyFits depth) →
    i + 2 * depth + 2 < width → ReadsFields i fields
  | [], _, _, hn, _, _ => absurd rfl hn
  | (key, value) :: rest, _, _, _, h, hw => by
    obtain ⟨hfits, hv⟩ := h (key, value) List.mem_cons_self
    have hrest : rest ≠ [] → ReadsFields _ rest := fun hn =>
      readsFields rest hn (fun x hx => h x (List.mem_cons_of_mem _ hx)) hw
    cases hs : isSimpleKey key with
    | true => exact readsFields_simple hs hfits (by omega) (readsValue value hv hw) hrest
    | false => exact readsFields_complex hs (by omega) hv (readsNested value hv hw) hrest

end

/-! ### Documents -/

/-- The lexer is at the end, and these are its tokens. -/
def AtEnd (queue : List Token) (l : Lexer) : Prop := l.ended = true ∧ l.queue = queue

theorem steady_atEnd (queue : List Token) : Steady (AtEnd queue) :=
  fun _ _ _ hm _ _ h => Bool.noConfusion (h.1.symm.trans hm)

/-- At the end of the text the block of the document is closed. -/
theorem fetches_end (hr : c.rest = []) :
    Fetches (AtEnd (queue ++ [.blockEnd] ++ [.streamEnd])) (resting c true [] 0 [-1] queue) := by
  have hs : StartsToken c.rest := hr ▸ startsToken_nil
  have hd : (resting c true [] 0 [-1] queue).dispatch =
      .ok { resting c false [] (-1) [] (queue ++ [.blockEnd] ++ [.streamEnd]) with
        ended := true } := by
    have hp : (resting c true [] 0 [-1] queue).cursor.peek = none := by
      change c.rest.head? = none
      rw [hr]
      rfl
    rw [dispatch, hp]
    rfl
  have hk : ∀ k ∈ ([] : List (Nat × PossibleKey)),
      (resting c true [] 0 [-1] queue).isStale k.2 = false :=
    fun k hk => absurd hk List.not_mem_nil
  exact .step runs_resting_nil (ready_resting_self hs (Int.natCast_nonneg _) hk) hd
    (by simp [resting]) (fun k hk => absurd hk List.not_mem_nil) (.done ⟨rfl, rfl⟩)

/-- What the run delivers from each goal it delivers from the start of a document. -/
theorem Fetches.tokens_result {goal : Lexer → Prop} (result : List Token → Option Error → Prop)
    (h : Fetches goal (Lexer.start (fieldsChars 0 true fields ++ ['\n'])))
    (hn : ∀ last, goal last → last.queue.length ≤ (fieldsTokens fields).length + 3)
    (hgoal : ∀ {last : Lexer} {delivered : List Token} {l : Lexer} {fuel : Nat}, goal last →
      Refills delivered l last → (∀ k ∈ l.keys, delivered.length ≤ k.2.tokenNumber) →
      l.queue.length < fuel → result (delivered ++ (run fuel l).1) (run fuel l).2) :
    result (tokens (fieldsChars 0 true fields ++ ['\n'])).1
      (tokens (fieldsChars 0 true fields ++ ['\n'])).2 := by
  have hlength := length_fieldsTokens 0 true fields
  have hrefills (cs : List Char) : Refills [] (Lexer.start cs) (Lexer.start cs) := ⟨rfl, rfl⟩
  refine h.run_result hn hgoal (hrefills _) (fun k hk => absurd hk List.not_mem_nil) ?_
  rw [List.length_append, List.length_singleton]
  omega

/-- The tokens of a mapping that was written are those of its value. -/
theorem tokens_fieldsChars (hn : fields ≠ []) (h : (Json.obj fields).Keyed KeyFits (depth + 1))
    (hw : 2 * depth + 2 < width) :
    tokens (fieldsChars 0 true fields ++ ['\n']) =
      (nodeTokens false (.obj fields) ++ [.streamEnd], none) := by
  have hopen : Opens .blockMappingStart (0 : Nat) (-1) [] [] [-1] [.blockMappingStart] :=
    .opened (by decide)
  have hend : LineEnd ['\n'] 0 [] := ⟨rfl, startsToken_nil⟩
  obtain ⟨c, hr, -, hreach⟩ := readsFields fields hn (Json.keyed_obj.1 h).2 (i := 0) (by omega) hend
    (Nat.le_refl 0) (c := .start (fieldsChars 0 true fields ++ ['\n'])) rfl hopen rfl
  have hfetches : Fetches (AtEnd (nodeTokens false (.obj fields) ++ [.streamEnd]))
      (Lexer.start (fieldsChars 0 true fields ++ ['\n'])) := by
    rw [nodeTokens_obj hn]
    exact hreach _ (steady_atEnd _) (fetches_end hr)
  refine Prod.ext_iff.2 (hfetches.tokens_result (fun found failure =>
    found = nodeTokens false (.obj fields) ++ [.streamEnd] ∧ failure = none) (fun last h => ?_)
    fun hg hr _ hf => ?_)
  · rw [h.2, nodeTokens_obj hn]
    simp
  · rw [← hg.2]
    exact run_ended (hr.ended_eq ▸ hg.1) hr hf

end ScenarioCompiler.Yaml.Lexer
