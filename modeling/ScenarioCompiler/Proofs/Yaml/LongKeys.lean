import ScenarioCompiler.Proofs.Yaml.Blocks

namespace ScenarioCompiler.Yaml.Lexer

open Writer Cursor

variable {l m r last : Lexer} {full delivered queue queue' : List Token} {token : Token}
  {c : Cursor} {rest tail : List Char} {indent : Int} {indents indents' : List Int}
  {key : PossibleKey} {text : String} {value : Json} {items : List Json}
  {fields : List (String × Json)} {i k depth fuel : Nat}

/-! ### Lexers that find no next token -/

/-- The lexer finds no next token, and those in its queue are among the given ones. -/
structure Stuck (full : List Token) (l : Lexer) : Prop where
  runs : l.Runs
  queue : l.queue.Sublist full
  fetch : ∃ e, l.fetch = .error e

theorem steady_stuck (full : List Token) : Steady (Stuck full) := by
  intro l m hl _ hq hready h
  obtain ⟨e, he⟩ := h.fetch
  exact ⟨hl, hq.sublist.trans h.queue, e, by rw [fetch_eq, hready, ← fetch_eq, he]⟩

/-- Forgetting keys early does not help. -/
theorem ready_of_dropStale (hd : l.dropStale = .ok m) (h : m.ready = .ok r) :
    ∃ r', l.ready = .ok r' := by
  obtain ⟨hstale, rfl⟩ := dropStale_eq_ok.1 hd
  obtain ⟨c, allowed, -, hnext, hrequired, -⟩ := ready_eq_ok h
  refine ⟨_, ready_eq (hnext l rfl rfl rfl) fun k hk hs => ?_⟩
  cases hk' : l.isStale k.2 with
  | true => exact hstale k hk hk'
  | false => exact hrequired k (List.mem_filter.2 ⟨hk, by rw [hk']; rfl⟩) hs

theorem Stuck.dropStale (h : Stuck full l) (hd : l.dropStale = .ok m) : Stuck full m := by
  have hm := (dropStale_eq_ok.1 hd).2
  obtain ⟨e, he⟩ := h.fetch
  have hruns : m.Runs := hm ▸ h.runs.of_forget
  have hqueue : m.queue = l.queue := by rw [hm]
  refine ⟨hruns, hqueue ▸ h.queue, ?_⟩
  rw [fetch_eq]
  cases hready : m.ready with
  | error e' => exact ⟨e', rfl⟩
  | ok r =>
    obtain ⟨r', hr'⟩ := ready_of_dropStale hd hready
    obtain ⟨hforget, hready'⟩ := h.runs.forget hr'
    rw [hd] at hforget
    cases hforget
    rw [fetch_eq, hr'] at he
    rw [← hready, hready']
    exact ⟨e, he⟩

theorem run_error_nil {e : Error} (he : l.ended = false) (hq : l.queue = [])
    (hf : l.fetch = .error e) : run (fuel + 1) l = ([], some e) := by
  rw [run, hq]
  simp [he, hf]

theorem run_error_dropStale {e : Error} (he : l.ended = false) (hq : l.queue = token :: queue)
    (hd : l.dropStale = .error e) : run (fuel + 1) l = ([], some e) := by
  rw [run, hq]
  simp [he, hd]

theorem run_error_pending {e : Error} (he : l.ended = false) (hq : l.queue = token :: queue)
    (hd : l.dropStale = .ok m) (hp : m.headIsPending = true) (hf : m.fetch = .error e) :
    run (fuel + 1) l = ([], some e) := by
  rw [run, hq]
  simp [he, hd, hp, hf]

/-- What a stuck lexer has delivered is among the tokens, also if it delivers nothing more. -/
theorem Stuck.delivered_sublist (h : Stuck full last) (hr : Refills delivered l last) :
    (delivered ++ []).Sublist full := by
  rw [List.append_nil]
  exact (hr.queue_eq ▸ List.sublist_append_left delivered l.queue).trans h.queue

/-- A lexer that is stuck delivers no other tokens than those in its queue. -/
theorem Stuck.run_sublist (h : Stuck full last) (hr : Refills delivered l last)
    (hk : ∀ k ∈ l.keys, delivered.length ≤ k.2.tokenNumber) (fuel : Nat) :
    (delivered ++ (run fuel l).1).Sublist full := by
  have he : l.ended = false := hr.ended_eq.symm.trans h.runs.ended
  induction hlq : l.queue generalizing l last delivered fuel with
  | nil =>
    cases fuel with
    | zero => exact h.delivered_sublist hr
    | succ fuel =>
      obtain ⟨e, hf⟩ := h.fetch
      rw [run_error_nil he hlq (hf ▸ hr.fetch hk).of_error]
      exact h.delivered_sublist hr
  | cons token queue ih =>
    cases fuel with
    | zero => exact h.delivered_sublist hr
    | succ fuel =>
      cases hd : l.dropStale with
      | error e =>
        rw [run_error_dropStale he hlq hd]
        exact h.delivered_sublist hr
      | ok l' =>
        obtain ⟨last', hlast, hr'⟩ := (hd ▸ hr.dropStale).exists_ok
        have h' := h.dropStale hlast
        have hl := (dropStale_eq_ok.1 hd).2
        have hk' : ∀ k ∈ l'.keys, delivered.length ≤ k.2.tokenNumber := by
          intro k hm
          rw [hl] at hm
          exact hk k (List.mem_filter.1 hm).1
        -- the first token is a possible key, or it is delivered
        cases hp : l'.headIsPending with
        | true =>
          obtain ⟨e, hf⟩ := h'.fetch
          rw [run_error_pending he hlq hd hp (hf ▸ hr'.fetch hk').of_error]
          exact h'.delivered_sublist hr'
        | false =>
          have hlq' : l'.queue = token :: queue := by rw [hl, hlq]
          have hk'' := le_of_headIsPending token hp hr'.taken hk'
          have hrest := ih h' (hr'.deliver hlq') hk'' fuel (by rw [hl]; exact he) rfl
          rw [run_deliver he hlq hd hp]
          rwa [List.append_assoc] at hrest

/-! ### A key that is too long -/

/-- A colon that comes too late is an error: the key was required, or no value is allowed there. -/
theorem exists_error_lateColon (hr : c.rest = ':' :: rest) (hb : isBlankOrEnd rest.head? = true)
    (hi : indent ≤ c.column) (hlate : 1024 < c.index - key.index) :
    ∃ e, (resting c false [(0, key)] indent indents queue).fetch = .error e := by
  have hs : StartsToken c.rest := by
    rw [hr]
    exact startsToken_cons (by decide) (by decide) (fun h => absurd h (by decide))
  have hstale : (resting c false [(0, key)] indent indents queue).isStale key = true := by
    simp [isStale, resting, hlate]
  have hnext : (resting c false [(0, key)] indent indents queue).toNextToken =
      resting c false [(0, key)] indent indents queue := toNextToken_start hs
  rw [fetch_eq]
  cases hrequired : key.required with
  | true =>
    have hdrop : (resting c false [(0, key)] indent indents queue).dropStale =
        .error (.lexical .keyWithoutColon) := by
      rw [dropStale, if_pos]
      · rfl
      · simpa [resting] using And.intro hstale hrequired
    rw [ready, hnext, hdrop]
    exact ⟨_, rfl⟩
  | false =>
    have hready : (resting c false [(0, key)] indent indents queue).ready =
        .ok (resting c false [] indent indents queue) := by
      have hkeys : (resting c false [(0, key)] indent indents queue).keys.filter
          (fun k => !(resting c false [(0, key)] indent indents queue).isStale k.2) = [] :=
        List.filter_eq_nil_iff.2 fun k hk => by
          rw [List.mem_singleton.1 hk, hstale]
          decide
      rw [ready_eq hnext fun k hk _ => by rw [List.mem_singleton.1 hk, hrequired], hkeys]
      exact congrArg Except.ok (unwind_eq_self hi)
    rw [hready, ok_bind, dispatch_eq hr, fetchAt_colon hs hr hb]
    exact ⟨_, rfl⟩

/-- A simple key that does not fit is read, but not its colon. -/
theorem fetches_stuck_longKey (hlong : ¬ KeyFits text)
    (hw : c.column + 2 < width) (hb : isBlankOrEnd rest.head? = true) (hi : indent ≤ c.column)
    (hr : c.rest = simpleKeyChars c.column text ++ ':' :: rest)
    (hq : (queue ++ [textToken true text]).Sublist full) :
    Fetches (Stuck full) (resting c true [] indent indents queue) := by
  have hlate : 1024 < (simpleKeyChars c.column text).length := by
    rw [simpleKeyChars_eq]
    exact Nat.not_le.1 fun h => hlong fun _ => h
  refine reaches_simpleKey hw hb hi hr _ (steady_stuck full) (.done ⟨runs_resting ?_, hq, ?_⟩)
  · intro k hk
    rw [List.mem_singleton.1 hk]
    exact Nat.le_refl _
  · refine exists_error_lateColon rfl hb ?_ ?_
    · dsimp only
      omega
    · dsimp only [possibleKey]
      omega

/-! ### Documents with a key that is too long -/

/-- A value behind the colon of its key is read up to a key that is too long. -/
def StopsValue (full : List Token) (i : Nat) (value : Json) : Prop :=
  ∀ ⦃column k : Nat⦄ ⦃c : Cursor⦄ ⦃tail rest : List Char⦄ ⦃indents : List Int⦄
    ⦃queue : List Token⦄, LineEnd tail k rest → k ≤ i → i ≤ c.column →
    c.rest = valueChars i column value ++ tail →
    (queue ++ nodeTokens true value).Sublist full →
    Fetches (Stuck full) (resting c false [] i indents queue)

/-- A value behind a sign is read up to a key that is too long. -/
def StopsNested (full : List Token) (i : Nat) (value : Json) : Prop :=
  ∀ ⦃k : Nat⦄ ⦃c : Cursor⦄ ⦃tail rest : List Char⦄ ⦃indents : List Int⦄ ⦃queue : List Token⦄,
    LineEnd tail k rest → k ≤ i → c.column = i + 2 → c.rest = nestedChars i value ++ tail →
    (queue ++ nodeTokens false value).Sublist full →
    Fetches (Stuck full) (resting c true [] i indents queue)

/-- Items are read up to a key that is too long. -/
def StopsItems (full : List Token) (i : Nat) (items : List Json) : Prop :=
  ∀ ⦃k : Nat⦄ ⦃c : Cursor⦄ ⦃tail rest : List Char⦄ ⦃indent : Int⦄ ⦃indents indents' : List Int⦄
    ⦃queue queue' : List Token⦄, LineEnd tail k rest → k ≤ i → c.column = i →
    Opens .blockSequenceStart i indent indents queue indents' queue' →
    c.rest = itemsChars i true items ++ tail → (queue' ++ itemsTokens items).Sublist full →
    Fetches (Stuck full) (resting c true [] indent indents queue)

/-- Entries are read up to a key that is too long. -/
def StopsFields (full : List Token) (i : Nat) (fields : List (String × Json)) : Prop :=
  ∀ ⦃k : Nat⦄ ⦃c : Cursor⦄ ⦃tail rest : List Char⦄ ⦃indent : Int⦄ ⦃indents indents' : List Int⦄
    ⦃queue queue' : List Token⦄, LineEnd tail k rest → k ≤ i → c.column = i →
    Opens .blockMappingStart i indent indents queue indents' queue' →
    c.rest = fieldsChars i true fields ++ tail → (queue' ++ fieldsTokens fields).Sublist full →
    Fetches (Stuck full) (resting c true [] indent indents queue)

theorem Reaches.stuck (h : Reaches l m) (h' : Fetches (Stuck full) m) : Fetches (Stuck full) l :=
  h _ (steady_stuck full) h'

theorem sublist_of_append {found more : List Token} (h : (found ++ more).Sublist full) :
    found.Sublist full :=
  (List.sublist_append_left found more).trans h

theorem stopsValue_arr (hn : items ≠ []) (h : StopsItems full i items) :
    StopsValue full i (.arr items) := by
  intro column k c tail rest indents queue he hk hi hr hq
  obtain ⟨d, hd, hcolumn, hreach⟩ := exists_reaches_items hn hr
  rw [nodeTokens_arr hn] at hq
  exact hreach.stuck (h he hk hcolumn .already hd hq)

theorem stopsNested_arr (hn : items ≠ []) (h : StopsItems full (i + 2) items) :
    StopsNested full i (.arr items) := by
  intro k c tail rest indents queue he hk hc hr hq
  have hopen : Opens .blockSequenceStart (i + 2 : Nat) i indents queue (i :: indents)
      (queue ++ [.blockSequenceStart]) := .opened (by omega)
  rw [nestedChars_arr hn] at hr
  rw [nodeTokens_arr hn] at hq
  exact h he (by omega) hc hopen hr (sublist_of_append (by simpa using hq))

theorem stopsFields_opened (hc : c.column = i + 2) (h : StopsFields full (i + 2) fields)
    (hn : fields ≠ []) (he : LineEnd tail k rest) (hk : k ≤ i)
    (hr : c.rest = fieldsChars (i + 2) true fields ++ tail) {indentless : Bool}
    (hq : (queue ++ nodeTokens indentless (.obj fields)).Sublist full) :
    Fetches (Stuck full) (resting c true [] i indents queue) := by
  have hopen : Opens .blockMappingStart (i + 2 : Nat) i indents queue (i :: indents)
      (queue ++ [.blockMappingStart]) := .opened (by omega)
  rw [nodeTokens_obj hn] at hq
  exact h he (by omega) hc hopen hr (sublist_of_append (by simpa using hq))

theorem stopsValue_obj (hn : fields ≠ []) (h : StopsFields full (i + 2) fields) :
    StopsValue full i (.obj fields) := by
  intro column k c tail rest indents queue he hk hi hr hq
  obtain ⟨d, hd, hcolumn, hreach⟩ := exists_reaches_fields hn hr
  exact hreach.stuck (stopsFields_opened hcolumn h hn he hk hd hq)

theorem stopsNested_obj (hn : fields ≠ []) (h : StopsFields full (i + 2) fields) :
    StopsNested full i (.obj fields) := by
  intro k c tail rest indents queue he hk hc hr hq
  rw [nestedChars_obj hn] at hr
  exact stopsFields_opened hc h hn he hk hr hq

theorem exists_lineEnd_items (he : LineEnd tail k rest) (hk : k ≤ i) (items : List Json) :
    ∃ k' rest', k' ≤ i ∧ LineEnd (itemsChars i false items ++ tail) k' rest' := by
  cases items with
  | nil => exact ⟨k, rest, hk, he⟩
  | cons item items => exact ⟨i, _, Nat.le_refl i, lineEnd_items i⟩

theorem exists_lineEnd_fields (he : LineEnd tail k rest) (hk : k ≤ i)
    (fields : List (String × Json)) :
    ∃ k' rest', k' ≤ i ∧ LineEnd (fieldsChars i false fields ++ tail) k' rest' := by
  cases fields with
  | nil => exact ⟨k, rest, hk, he⟩
  | cons field fields => exact ⟨i, _, Nat.le_refl i, lineEnd_fields i⟩

variable {p : String → Prop}

theorem stopsItems_head (hv : value.Keyed p depth) (h : StopsNested full i value) :
    StopsItems full i (value :: items) := by
  intro k c tail rest indent indents indents' queue queue' he hk hc ho hr hq
  subst hc
  obtain ⟨k', rest', hk', he'⟩ := exists_lineEnd_items he hk items
  obtain ⟨d, hd, hcolumn, hreach⟩ := exists_reaches_item hv he' ho hr
  exact hreach.stuck (h he' hk' hcolumn hd (sublist_of_append (by simpa [itemsTokens] using hq)))

theorem stopsItems_tail (h : ReadsItems i [value]) (hn : items ≠ [])
    (h' : StopsItems full i items) : StopsItems full i (value :: items) := by
  intro k c tail rest indent indents indents' queue queue' he hk hc ho hr hq
  cases items with
  | nil => exact absurd rfl hn
  | cons item items =>
    have hr : c.rest =
        itemsChars i true [value] ++ (itemsChars i false (item :: items) ++ tail) := by
      rw [hr]
      simp [itemsChars]
    obtain ⟨d, hd, hcolumn, hline⟩ := h (lineEnd_items i) (Nat.le_refl i) hc ho hr
    exact hline.stuck (h' he hk hcolumn .already hd (by simpa [itemsTokens] using hq))

theorem Opens.sublist {start : Token} {column : Int}
    (h : Opens start column indent indents queue indents' queue') : queue.Sublist queue' := by
  cases h with
  | opened => exact List.sublist_append_left _ _
  | already => exact List.Sublist.refl _

variable {name : String}

theorem stopsFields_name (hs : isSimpleKey name = true) (hlong : ¬ KeyFits name)
    (hw : i + 2 < width) : StopsFields full i ((name, value) :: fields) := by
  intro k c tail rest indent indents indents' queue queue' he hk hc ho hr hq
  subst hc
  rw [fieldsChars_simple hs] at hr
  have hqueue : (queue ++ [textToken true name]).Sublist
      (queue' ++ fieldsTokens ((name, value) :: fields)) := by
    rw [fieldsTokens, hs]
    exact ho.sublist.append (((List.nil_sublist _).cons_cons _).cons _)
  exact fetches_stuck_longKey hlong hw (isBlankOrEnd_valueChars _ _ _ _) ho.le hr (hqueue.trans hq)

theorem stopsFields_value (hs : isSimpleKey name = true) (hfits : KeyFits name)
    (hw : i + 2 < width) (h : StopsValue full i value) :
    StopsFields full i ((name, value) :: fields) := by
  intro k c tail rest indent indents indents' queue queue' he hk hc ho hr hq
  subst hc
  rw [fieldsChars_simple hs] at hr
  obtain ⟨k', rest', hk', he'⟩ := exists_lineEnd_fields he hk fields
  obtain ⟨d, hd, hcolumn, hreach⟩ :=
    exists_reaches_simpleKey hs hfits hw (isBlankOrEnd_valueChars _ _ _ _) ho hr
  exact hreach.stuck
    (h he' hk' hcolumn hd (sublist_of_append (by simpa [fieldsTokens, hs] using hq)))

theorem stopsFields_nested (hs : isSimpleKey name = false) (hw : i + 2 < width)
    (hv : value.Keyed p depth) (h : StopsNested full i value) :
    StopsFields full i ((name, value) :: fields) := by
  intro k c tail rest indent indents indents' queue queue' he hk hc ho hr hq
  subst hc
  rw [fieldsChars_complex hs] at hr
  obtain ⟨k', rest', hk', he'⟩ := exists_lineEnd_fields he hk fields
  obtain ⟨d, hd, hcolumn, hkey⟩ := reachesLine_question hw ⟨rfl, startsToken_sign (by decide)⟩
    (Nat.le_refl _) ho hr
  obtain ⟨d', hd', hcolumn', hreach⟩ := exists_reaches_nested hv he' hcolumn hd
  exact (hkey.trans hreach).stuck
    (h he' hk' hcolumn' hd' (sublist_of_append (by simpa [fieldsTokens, hs] using hq)))

theorem stopsFields_tail (h : ReadsFields i [(name, value)]) (hn : fields ≠ [])
    (h' : StopsFields full i fields) : StopsFields full i ((name, value) :: fields) := by
  intro k c tail rest indent indents indents' queue queue' he hk hc ho hr hq
  cases fields with
  | nil => exact absurd rfl hn
  | cons field fields =>
    have hr : c.rest =
        fieldsChars i true [(name, value)] ++ (fieldsChars i false (field :: fields) ++ tail) := by
      rw [hr]
      simp [fieldsChars]
    obtain ⟨d, hd, hcolumn, hline⟩ := h (lineEnd_fields i) (Nat.le_refl i) hc ho hr
    exact hline.stuck (h' he hk hcolumn .already hd (by simpa [fieldsTokens] using hq))

/-- No name is in a scalar. -/
theorem keyed_of_isScalar {q : String → Prop} (hs : IsScalar value) (h : value.Keyed p depth) :
    value.Keyed q depth := by
  refine ⟨h.plain, fun name hm => ?_, h.height⟩
  match value with
  | .null | .bool _ | .int _ | .str _ => exact absurd hm List.not_mem_nil

theorem ne_nil_of_not_forall {α : Type} {P : α → Prop} {xs : List α} (h : ¬ ∀ x ∈ xs, P x) :
    xs ≠ [] := by
  rintro rfl
  exact h fun _ hx => absurd hx List.not_mem_nil

mutual

theorem stopsValue : ∀ (value : Json) {depth i : Nat}, value.Keyed (fun _ => True) depth →
    ¬ value.Keyed KeyFits depth → i + 2 * depth + 2 < width → StopsValue full i value
  | .null, _, _, h, hn, _ | .bool _, _, _, h, hn, _ | .int _, _, _, h, hn, _ |
    .str _, _, _, h, hn, _ => absurd (keyed_of_isScalar (by trivial) h) hn
  | .float _, _, _, h, _, _ => h.plain.elim
  | .arr items, depth + 1, i, h, hn, hw => by
    rw [Json.keyed_arr] at h hn
    exact stopsValue_arr (ne_nil_of_not_forall hn) (stopsItems items h hn (by omega))
  | .obj fields, depth + 1, i, h, hn, hw => by
    rw [Json.keyed_obj] at h hn
    have hn := fun hall => hn ⟨h.1, hall⟩
    exact stopsValue_obj (ne_nil_of_not_forall hn)
      (stopsFields fields (fun field hf => (h.2 field hf).2) hn (by omega))
  | .arr _, 0, _, h, _, _ | .obj _, 0, _, h, _, _ => absurd h.height (Nat.not_succ_le_zero _)

theorem stopsNested : ∀ (value : Json) {depth i : Nat}, value.Keyed (fun _ => True) depth →
    ¬ value.Keyed KeyFits depth → i + 2 * depth + 2 < width → StopsNested full i value
  | .null, _, _, h, hn, _ | .bool _, _, _, h, hn, _ | .int _, _, _, h, hn, _ |
    .str _, _, _, h, hn, _ => absurd (keyed_of_isScalar (by trivial) h) hn
  | .float _, _, _, h, _, _ => h.plain.elim
  | .arr items, depth + 1, i, h, hn, hw => by
    rw [Json.keyed_arr] at h hn
    exact stopsNested_arr (ne_nil_of_not_forall hn) (stopsItems items h hn (by omega))
  | .obj fields, depth + 1, i, h, hn, hw => by
    rw [Json.keyed_obj] at h hn
    have hn := fun hall => hn ⟨h.1, hall⟩
    exact stopsNested_obj (ne_nil_of_not_forall hn)
      (stopsFields fields (fun field hf => (h.2 field hf).2) hn (by omega))
  | .arr _, 0, _, h, _, _ | .obj _, 0, _, h, _, _ => absurd h.height (Nat.not_succ_le_zero _)

theorem stopsItems : ∀ (items : List Json) {depth i : Nat},
    (∀ item ∈ items, item.Keyed (fun _ => True) depth) →
    ¬ (∀ item ∈ items, item.Keyed KeyFits depth) → i + 2 * depth + 2 < width →
    StopsItems full i items
  | [], _, _, _, hn, _ => absurd rfl (ne_nil_of_not_forall hn)
  | item :: rest, depth, _, h, hn, hw => by
    rw [List.forall_mem_cons] at h hn
    by_cases hitem : item.Keyed KeyFits depth
    · have hrest := fun hall => hn ⟨hitem, hall⟩
      exact stopsItems_tail
        (readsItems [item] (List.cons_ne_nil _ _) (List.forall_mem_singleton.2 hitem) hw)
        (ne_nil_of_not_forall hrest) (stopsItems rest h.2 hrest hw)
    · exact stopsItems_head h.1 (stopsNested item h.1 hitem hw)

theorem stopsFields : ∀ (fields : List (String × Json)) {depth i : Nat},
    (∀ field ∈ fields, field.2.Keyed (fun _ => True) depth) →
    ¬ (∀ field ∈ fields, KeyFits field.1 ∧ field.2.Keyed KeyFits depth) →
    i + 2 * depth + 2 < width → StopsFields full i fields
  | [], _, _, _, hn, _ => absurd rfl (ne_nil_of_not_forall hn)
  | (name, value) :: rest, depth, _, h, hn, hw => by
    rw [List.forall_mem_cons] at h hn
    by_cases hname : KeyFits name
    · by_cases hvalue : value.Keyed KeyFits depth
      · have hrest := fun hall => hn ⟨⟨hname, hvalue⟩, hall⟩
        exact stopsFields_tail (readsFields [(name, value)] (List.cons_ne_nil _ _)
          (List.forall_mem_singleton.2 ⟨hname, hvalue⟩) hw)
          (ne_nil_of_not_forall hrest) (stopsFields rest h.2 hrest hw)
      · cases hs : isSimpleKey name with
        | true => exact stopsFields_value hs hname (by omega) (stopsValue value h.1 hvalue hw)
        | false => exact stopsFields_nested hs (by omega) h.1 (stopsNested value h.1 hvalue hw)
    · exact stopsFields_name (Classical.not_imp.1 hname).1 hname (by omega)

end

mutual

/-- The end of the text is no token of a value. -/
theorem streamEnd_not_mem_nodeTokens (indentless : Bool) : ∀ value : Json,
    .streamEnd ∉ nodeTokens indentless value
  | .null | .bool _ | .int _ | .float _ | .str _ => by simp [nodeTokens, scalarToken]
  | .arr items => by
    have := streamEnd_not_mem_itemsTokens items
    rw [nodeTokens]
    split
    · decide
    · split <;> simp [this]
  | .obj fields => by
    have := streamEnd_not_mem_fieldsTokens fields
    rw [nodeTokens]
    split
    · decide
    · simp [this]

theorem streamEnd_not_mem_itemsTokens : ∀ items : List Json, .streamEnd ∉ itemsTokens items
  | [] => List.not_mem_nil
  | item :: rest => by
    have := streamEnd_not_mem_nodeTokens false item
    simp [itemsTokens, this, streamEnd_not_mem_itemsTokens rest]

theorem streamEnd_not_mem_fieldsTokens : ∀ fields : List (String × Json),
    .streamEnd ∉ fieldsTokens fields
  | [] => List.not_mem_nil
  | (name, value) :: rest => by
    have := streamEnd_not_mem_nodeTokens (isSimpleKey name) value
    simp [fieldsTokens, textToken, this, streamEnd_not_mem_fieldsTokens rest]

end

/-- The tokens of a mapping with a name that is too long have no end. -/
theorem streamEnd_not_mem_tokens (h : (Json.obj fields).Keyed (fun _ => True) (depth + 1))
    (hn : ¬ (Json.obj fields).Keyed KeyFits (depth + 1)) (hw : 2 * depth + 2 < width) :
    .streamEnd ∉ (tokens (fieldsChars 0 true fields ++ ['\n'])).1 := by
  have hopen : Opens .blockMappingStart (0 : Nat) (-1) [] [] [-1] [.blockMappingStart] :=
    .opened (by decide)
  have hend : LineEnd ['\n'] 0 [] := ⟨rfl, startsToken_nil⟩
  rw [Json.keyed_obj] at h hn
  have hn := fun hall => hn ⟨h.1, hall⟩
  have hstops : StopsFields ([.blockMappingStart] ++ fieldsTokens fields) 0 fields :=
    stopsFields fields (fun field hf => (h.2 field hf).2) hn (by omega)
  have hfetches : Fetches (Stuck ([.blockMappingStart] ++ fieldsTokens fields))
      (Lexer.start (fieldsChars 0 true fields ++ ['\n'])) :=
    hstops hend (Nat.le_refl 0) rfl hopen rfl (List.Sublist.refl _)
  have hsublist : (tokens (fieldsChars 0 true fields ++ ['\n'])).1.Sublist
      ([.blockMappingStart] ++ fieldsTokens fields) := by
    refine hfetches.tokens_result
      (fun found _ => found.Sublist ([.blockMappingStart] ++ fieldsTokens fields))
      (fun last h => ?_) fun hg hr hk _ => hg.run_sublist hr hk _
    have := h.queue.length_le
    rw [List.length_append, List.length_singleton] at this
    omega
  intro hm
  rcases List.mem_append.1 (hsublist.subset hm) with hm | hm
  · exact absurd hm (by decide)
  · exact streamEnd_not_mem_fieldsTokens fields hm

end ScenarioCompiler.Yaml.Lexer
