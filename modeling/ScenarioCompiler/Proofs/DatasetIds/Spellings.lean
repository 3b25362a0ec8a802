import ScenarioCompiler.DatasetIds
import ScenarioCompiler.Proofs.Json.Heads
import ScenarioCompiler.Proofs.Json.RoundTrip
import ScenarioCompiler.Proofs.Text

namespace ScenarioCompiler.DatasetIds

open Text (isBlank Trimmed)

variable {c : Char} {before middle quote : List Char} {ids : List String} {indent : Option Nat}

/-- An id that is not empty and neither begins nor ends with a blank or a quote. -/
def IsId (id : String) : Prop := Trimmed (fun c => isBlank c || isQuote c) id.toList

/-- An id of a list with what stands around it. -/
structure Item where
  before : List Char
  id : String
  after : List Char

namespace Item

/-- Nothing but white space stands around the id. -/
def Spaced (item : Item) : Prop := ∀ c ∈ item.before ++ item.after, isBlank c = true

/-- The text of an item of which the id stands in quotes. -/
def chars (quote : List Char) (item : Item) : List Char :=
  item.before ++ ((quote ++ (item.id.toList ++ quote)) ++ item.after)

end Item

variable {item : Item} {items : List Item}

/-- A text between brackets. -/
def bracketed (middle : List Char) : String := String.ofList ('[' :: (middle ++ [']']))

/-- A list whose items stand between commas, each id in the given quotes. -/
def listing (quote : List Char) (items : List Item) : String :=
  bracketed ([','].intercalate (items.map (Item.chars quote)))

/-! ### Items -/

theorem isBlank_of_isQuote (h : isQuote c = true) : isBlank c = false := by
  simp only [isQuote, Bool.or_eq_true, decide_eq_true_eq] at h
  rcases h with rfl | rfl <;> decide

theorem IsId.trimmed_blank {id : String} (h : IsId id) : Trimmed isBlank id.toList :=
  h.mono fun _ h => (Bool.or_eq_false_iff.1 h).1

theorem IsId.trimmed_quote {id : String} (h : IsId id) : Trimmed isQuote id.toList :=
  h.mono fun _ h => (Bool.or_eq_false_iff.1 h).2

theorem clean_id {id : String} (h : IsId id) : clean id.toList = id.toList := by
  rw [clean, h.trimmed_blank.trimBoth_eq, h.trimmed_quote.trimBoth_eq, h.trimmed_blank.trimBoth_eq]

theorem clean_chars (hid : IsId item.id) (hs : item.Spaced)
    (hq : ∀ c ∈ quote, isQuote c = true) : clean (item.chars quote) = item.id.toList := by
  have hinner : Trimmed isBlank (quote ++ (item.id.toList ++ quote)) :=
    hid.trimmed_blank.surround (fun c hc => isBlank_of_isQuote (hq c hc))
      fun c hc => isBlank_of_isQuote (hq c hc)
  have houter : Text.trimBoth isBlank (item.chars quote) = quote ++ (item.id.toList ++ quote) :=
    Text.trimBoth_surround hinner (fun c hc => hs c (List.mem_append_left _ hc))
      fun c hc => hs c (List.mem_append_right _ hc)
  rw [clean, houter, Text.trimBoth_surround hid.trimmed_quote hq hq, hid.trimmed_blank.trimBoth_eq]

theorem cleanAll_eq {pieces : List (List Char)} (hid : ∀ id ∈ ids, IsId id)
    (h : pieces.map clean = ids.map String.toList) : cleanAll pieces = ids := by
  have hne : ∀ cs ∈ ids.map String.toList, (!cs.isEmpty) = true := by
    intro cs hcs
    obtain ⟨id, hm, rfl⟩ := List.mem_map.1 hcs
    simpa using (hid id hm).ne_nil
  rw [cleanAll, h, List.filter_eq_self.2 hne, List.map_map]
  exact (List.map_congr_left fun id _ => String.ofList_toList).trans (List.map_id ids)

theorem cleanAll_texts (hid : ∀ id ∈ ids, IsId id) : cleanAll (ids.map String.toList) = ids := by
  refine cleanAll_eq hid ?_
  rw [List.map_map]
  refine List.map_congr_left fun id hm => ?_
  rw [Function.comp_apply, clean_id (hid id hm)]

theorem cleanAll_chars (hid : ∀ item ∈ items, IsId item.id) (hs : ∀ item ∈ items, item.Spaced)
    (hq : ∀ c ∈ quote, isQuote c = true) :
    cleanAll (items.map (Item.chars quote)) = items.map (·.id) := by
  refine cleanAll_eq (by simpa using hid) ?_
  rw [List.map_map, List.map_map]
  refine List.map_congr_left fun item hm => ?_
  rw [Function.comp_apply, clean_chars (hid item hm) (hs item hm) hq, Function.comp_apply]

theorem comma_not_mem_chars (hid : ',' ∉ item.id.toList) (hs : item.Spaced)
    (hq : ∀ c ∈ quote, isQuote c = true) : ',' ∉ item.chars quote := by
  have hblank : ',' ∉ item.before ++ item.after := fun h => absurd (hs _ h) (by decide)
  have hquote : ',' ∉ quote := fun h => absurd (hq _ h) (by decide)
  rw [List.mem_append, not_or] at hblank
  simp [Item.chars, hid, hquote, hblank]

/-! ### Lists -/

theorem toList_bracketed (middle : List Char) :
    (bracketed middle).toList = '[' :: (middle ++ [']']) :=
  String.toList_ofList

theorem parse_of_read_eq_none (h : Json.read (bracketed middle) = none) :
    parse (bracketed middle) = .ok (cleanAll (Text.splitAll [','] middle)) := by
  simp only [parse, toList_bracketed, List.getLast?_concat, List.dropLast_concat, ne_eq,
    not_true_eq_false, if_false, h]

theorem parse_of_read_eq_arr {documents : List Json}
    (h : Json.read (bracketed middle) = some (.arr documents)) :
    parse (bracketed middle) = match textItems? documents with
      | some texts => .ok (cleanAll (texts.map String.toList))
      | none => .error (.malformedDatasetIds (bracketed middle) "items must be strings") := by
  cases ht : textItems? documents <;>
    simp only [parse, toList_bracketed, List.getLast?_concat, ne_eq, not_true_eq_false, if_false, h,
      ht]

theorem read_listing_nil (quote : List Char) : Json.read (listing quote []) = some (.arr []) :=
  Json.read_write (j := .arr []) trivial none

/-- A list that is no JSON document is read item by item. -/
theorem parse_listing (h : Json.read (listing quote items) = none)
    (hid : ∀ item ∈ items, IsId item.id) (hcomma : ∀ item ∈ items, ',' ∉ item.id.toList)
    (hs : ∀ item ∈ items, item.Spaced) (hq : ∀ c ∈ quote, isQuote c = true) :
    parse (listing quote items) = .ok (items.map (·.id)) := by
  have hne : items ≠ [] := by
    rintro rfl
    exact absurd h (by simp [read_listing_nil])
  have hpieces : Text.splitAll [','] ([','].intercalate (items.map (Item.chars quote))) =
      items.map (Item.chars quote) := by
    refine Text.splitAll_intercalate ?_ (by simpa using hne)
    simpa using fun item hm => comma_not_mem_chars (hcomma item hm) (hs item hm) hq
  rw [listing, parse_of_read_eq_none h, hpieces, cleanAll_chars hid hs hq]

/-! ### JSON documents -/

theorem textItems?_map_str (ids : List String) : textItems? (ids.map .str) = some ids := by
  induction ids with
  | nil => rfl
  | cons id ids ih => rw [List.map_cons, textItems?, ih, Option.map_some]

theorem plain_ofStrings (ids : List String) : (Json.ofStrings ids).Plain := by
  suffices h : Json.PlainItems (ids.map .str) from h
  induction ids with
  | nil => trivial
  | cons id ids ih => exact ⟨trivial, ih⟩

theorem exists_write_ofStrings (indent : Option Nat) (ids : List String) :
    ∃ middle, Json.write indent (Json.ofStrings ids) = bracketed middle := by
  cases ids with
  | nil => exact ⟨[], rfl⟩
  | cons id ids => exact ⟨_, by rw [Json.write, Json.ofStrings, List.map_cons, Json.render]; rfl⟩

theorem parse_write (hid : ∀ id ∈ ids, IsId id) :
    parse (Json.write indent (Json.ofStrings ids)) = .ok ids := by
  have hread := Json.read_write (plain_ofStrings ids) indent
  obtain ⟨middle, hw⟩ := exists_write_ofStrings indent ids
  rw [hw] at hread ⊢
  rw [parse_of_read_eq_arr hread, textItems?_map_str]
  exact congrArg Except.ok (cleanAll_texts hid)

/-! ### Accidental JSON -/

theorem isBlank_of_isSpace (h : Json.isSpace c = true) : isBlank c = true :=
  Json.of_isSpace (p := (isBlank · = true)) (by decide) h

theorem not_begins_of_isBlank (h : isBlank c = true) : ¬ Json.Begins c := by
  rintro (hd | hm)
  · obtain ⟨hl, hu⟩ : 48 ≤ c.toNat ∧ c.toNat ≤ 57 := Char.isDigit_iff_toNat.1 hd
    simp only [Text.isBlank, Bool.or_eq_true, Bool.and_eq_true, decide_eq_true_eq] at h
    omega
  · have hnone : ['[', '\x7b', '"', '-', 'n', 't', 'f', 'N', 'I'].all (!isBlank ·) = true := by
      decide
    have hc := List.all_eq_true.1 hnone c hm
    simp [h] at hc

/-- Behind the white space of JSON stands what is not blank, or white space of another kind. -/
theorem exists_skipSpace (rest : List Char) (hb : ∀ x ∈ before, isBlank x = true)
    (hc : isBlank c = false) :
    ∃ d more, Json.skipSpace (before ++ c :: rest) = d :: more ∧
      (isBlank d = true ∨ d = c ∧ more = rest) := by
  induction before with
  | nil =>
    have hs : Json.isSpace c = false :=
      Bool.eq_false_iff.2 fun h => absurd (hc.symm.trans (isBlank_of_isSpace h)) (by decide)
    exact ⟨c, rest, Json.skipSpace_cons hs, .inr ⟨rfl, rfl⟩⟩
  | cons x before ih =>
    obtain ⟨hx, hbefore⟩ := List.forall_mem_cons.1 hb
    cases hs : Json.isSpace x with
    | true =>
      rw [List.cons_append, Json.skipSpace, List.dropWhile_cons_of_pos hs]
      exact ih hbefore
    | false => exact ⟨x, before ++ c :: rest, Json.skipSpace_cons hs, .inl hx⟩

theorem exists_toList_listing (quote : List Char) (item : Item) (items : List Item) :
    ∃ tail, (listing quote (item :: items)).toList =
      '[' :: (item.before ++ (quote ++ (item.id.toList ++ (tail ++ [']'])))) := by
  rw [listing, toList_bracketed, List.map_cons]
  cases items.map (Item.chars quote) with
  | nil => exact ⟨quote ++ item.after, by simp [Item.chars]⟩
  | cons next others =>
    refine ⟨quote ++ (item.after ++ ([','] ++ [','].intercalate (next :: others))), ?_⟩
    rw [List.intercalate_cons_cons]
    simp [Item.chars]

/-- No JSON document has a text in single quotes. -/
theorem read_quoted (hs : item.Spaced) :
    Json.read (listing ['\''] (item :: items)) = none := by
  obtain ⟨tail, ht⟩ := exists_toList_listing ['\''] item items
  have hblank : isBlank '\'' = false := rfl
  obtain ⟨d, more, hskip, hd⟩ := exists_skipSpace (item.id.toList ++ (tail ++ [']']))
    (fun x hx => hs x (List.mem_append_left _ hx)) hblank
  have hbegins : d ≠ ']' ∧ ¬ Json.Begins d := by
    rcases hd with hd | ⟨rfl, -⟩
    · exact ⟨by rintro rfl; exact absurd hd (by decide), not_begins_of_isBlank hd⟩
    · exact ⟨by decide, by simp [Json.Begins]⟩
  refine Option.eq_none_iff_forall_ne_some.2 fun document hread => ?_
  rcases Json.read_bracket ht hskip hread with ⟨hclosed, -⟩ | ⟨first, others, fuel, after, -, hv⟩
  · exact hbegins.1 hclosed
  · rw [Json.readValue_eq_none hbegins.2] at hv
    simp at hv

/-- A JSON document by accident is a list of which the first item is no text. -/
theorem read_bare {document : Json} (hid : IsId item.id) (hs : item.Spaced)
    (h : Json.read (listing [] (item :: items)) = some document) :
    ∃ documents, document = .arr documents ∧ textItems? documents = none := by
  obtain ⟨tail, ht⟩ := exists_toList_listing [] item items
  obtain ⟨c, cs, hc⟩ := List.exists_cons_of_ne_nil hid.ne_nil
  have hhead := hid.head c (by rw [hc]; rfl)
  obtain ⟨hblank, hquote⟩ := Bool.or_eq_false_iff.1 hhead
  obtain ⟨d, more, hskip, hd⟩ := exists_skipSpace (cs ++ (tail ++ [']']))
    (fun x hx => hs x (List.mem_append_left _ hx)) hblank
  rw [hc, List.nil_append, List.cons_append] at ht
  rcases Json.read_bracket ht hskip h with ⟨rfl, hclosed⟩ | ⟨first, others, fuel, after, rfl, hv⟩
  · -- the bracket of the list itself still follows
    rcases hd with hd | ⟨-, rfl⟩
    · exact absurd hd (by decide)
    · exact absurd (List.dropWhile_eq_nil_iff.1 hclosed ']' (by simp)) (by decide)
  · refine ⟨first :: others, rfl, ?_⟩
    have hno : ∀ s, first ≠ .str s := by
      rintro s rfl
      obtain rfl := Json.eq_quote_of_readValue hv
      rcases hd with hd | ⟨rfl, -⟩
      · exact absurd hd (by decide)
      · exact absurd hquote (by decide)
    cases first with
    | str s => exact absurd rfl (hno s)
    | _ => rfl

/-! ### All spellings of a list -/

theorem parse_quoted (hid : ∀ item ∈ items, IsId item.id)
    (hcomma : ∀ item ∈ items, ',' ∉ item.id.toList) (hs : ∀ item ∈ items, item.Spaced) :
    parse (listing ['\''] items) = .ok (items.map (·.id)) := by
  cases items with
  | nil => exact parse_of_read_eq_arr (read_listing_nil ['\''])
  | cons item items =>
    exact parse_listing (read_quoted (hs item List.mem_cons_self)) hid hcomma hs
      (List.forall_mem_singleton.2 rfl)

theorem parse_bare (hid : ∀ item ∈ items, IsId item.id)
    (hcomma : ∀ item ∈ items, ',' ∉ item.id.toList) (hs : ∀ item ∈ items, item.Spaced) :
    parse (listing [] items) =
      if items ≠ [] ∧ (Json.read (listing [] items)).isSome then
        .error (.malformedDatasetIds (listing [] items) "items must be strings")
      else .ok (items.map (·.id)) := by
  cases items with
  | nil => exact parse_of_read_eq_arr (read_listing_nil [])
  | cons item items =>
    cases hread : Json.read (listing [] (item :: items)) with
    | none => simpa [hread] using parse_listing hread hid hcomma hs (by simp)
    | some document =>
      obtain ⟨documents, rfl, ht⟩ :=
        read_bare (hid item List.mem_cons_self) (hs item List.mem_cons_self) hread
      have hparse := parse_of_read_eq_arr hread
      rw [ht] at hparse
      rw [if_pos ⟨List.cons_ne_nil _ _, rfl⟩]
      exact hparse

/-- The texts that stand for a list of ids: a JSON array, the ids in single quotes, or the bare
ids; the last two only where no id contains a comma. -/
inductive Spells (ids : List String) : String → Prop
  | json (indent : Option Nat) : Spells ids (Json.write indent (Json.ofStrings ids))
  | quoted {items : List Item} (hids : items.map (·.id) = ids)
      (hs : ∀ item ∈ items, item.Spaced) (hcomma : ∀ id ∈ ids, ',' ∉ id.toList) :
      Spells ids (listing ['\''] items)
  | bare {items : List Item} (hids : items.map (·.id) = ids)
      (hs : ∀ item ∈ items, item.Spaced) (hcomma : ∀ id ∈ ids, ',' ∉ id.toList) :
      Spells ids (listing [] items)

/-- All spellings of a list of ids mean the list. The JSON array and the ids in single quotes are
always read as the list; bare ids are so too, unless they are a JSON document by accident, which is
refused since its items are no texts. -/
theorem spellings_agree (hid : ∀ id ∈ ids, IsId id) :
    (∀ indent, parse (Json.write indent (Json.ofStrings ids)) = .ok ids) ∧
      ((∀ id ∈ ids, ',' ∉ id.toList) → ∀ items : List Item, items.map (·.id) = ids →
        (∀ item ∈ items, item.Spaced) →
          parse (listing ['\''] items) = .ok ids ∧
          parse (listing [] items) =
            if ids ≠ [] ∧ (Json.read (listing [] items)).isSome then
              .error (.malformedDatasetIds (listing [] items) "items must be strings")
            else .ok ids) ∧
      ∀ text other, Spells ids text → parse text = .ok other → other = ids := by
  refine ⟨fun indent => parse_write hid, ?_, fun text other hspells hparse => ?_⟩
  · rintro hcomma items rfl hs
    rw [List.forall_mem_map] at hid hcomma
    refine ⟨parse_quoted hid hcomma hs, ?_⟩
    simp only [parse_bare hid hcomma hs, ne_eq, List.map_eq_nil_iff]
  · cases hspells with
    | json indent => exact (Except.ok.inj ((parse_write hid).symm.trans hparse)).symm
    | quoted hids hs hcomma =>
      subst hids
      rw [List.forall_mem_map] at hid hcomma
      exact (Except.ok.inj ((parse_quoted hid hcomma hs).symm.trans hparse)).symm
    | bare hids hs hcomma =>
      subst hids
      rw [List.forall_mem_map] at hid hcomma
      rw [parse_bare hid hcomma hs] at hparse
      split at hparse
      · simp at hparse
      · exact (Except.ok.inj hparse).symm

/-- Ids that look like numbers have to be quoted. -/
def numericItems : List Item := [⟨[], "1", []⟩, ⟨[], "NaN", []⟩]

theorem numericItems_spelled :
    parse (listing ['\''] numericItems) = .ok ["1", "NaN"] ∧
      parse (listing [] numericItems) =
        .error (.malformedDatasetIds "[1,NaN]" "items must be strings") := by
  have hid : ∀ id ∈ ["1", "NaN"], IsId id := by
    have hone : IsId "1" := ⟨by simp, by simp; decide, by simp; decide⟩
    have hnan : IsId "NaN" := ⟨by simp, by simp; decide, by simp; decide⟩
    simp [hone, hnan]
  obtain ⟨-, hlists, -⟩ := spellings_agree hid
  have hspaced : ∀ item ∈ numericItems, item.Spaced := by
    simp [numericItems, Item.Spaced]
  have hboth := hlists (by decide) numericItems rfl hspaced
  have ht : listing [] numericItems = "[1,NaN]" := by decide
  have hread : (Json.read "[1,NaN]").isSome = true := by decide +kernel
  refine ⟨hboth.1, ?_⟩
  rw [hboth.2, ht, hread]
  rfl

end ScenarioCompiler.DatasetIds
