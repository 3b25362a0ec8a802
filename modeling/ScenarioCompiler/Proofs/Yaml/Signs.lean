import ScenarioCompiler.Proofs.Yaml.Run

namespace ScenarioCompiler.Yaml.Lexer

open Cursor

variable {l m r : Lexer} {c : Cursor} {ch : Char} {rest more : List Char} {allowed : Bool}
  {keys : List (Nat × PossibleKey)} {key : PossibleKey} {column indent outer : Int}
  {indents indents' : List Int} {queue queue' : List Token} {token : Token} {k fuel : Nat}

/-! ### Lexers that read the same tokens -/

/-- A goal that does not depend on what only comes in front of the next token. -/
def Steady (goal : Lexer → Prop) : Prop :=
  ∀ ⦃l m : Lexer⦄, l.Runs → m.ended = false → l.queue <+: m.queue → l.ready = m.ready → goal m →
    goal l

/-- What the second lexer leads to, the first one leads to as well. -/
def Reaches (l m : Lexer) : Prop := ∀ goal, Steady goal → Fetches goal m → Fetches goal l

theorem Reaches.refl (l : Lexer) : Reaches l l := fun _ _ h => h

theorem Reaches.trans (h : Reaches l m) (h' : Reaches m r) : Reaches l r :=
  fun goal hs hf => h goal hs (h' goal hs hf)

theorem Reaches.of_ready (hl : l.Runs) (hm : m.ended = false) (hq : l.queue <+: m.queue)
    (h : l.ready = m.ready) : Reaches l m := by
  intro goal hs hf
  cases hf with
  | done hg => exact .done (hs hl hm hq h hg)
  | step _ hr hd hq hk hf => exact .step hl (h.trans hr) hd hq hk hf

theorem Reaches.step (hl : l.Runs) (hr : l.ready = .ok r) (hd : r.dispatch = .ok m)
    (hq : r.queue.length < m.queue.length)
    (hk : ∀ k ∈ m.keys, k ∈ r.keys ∨ r.queue.length ≤ k.2.tokenNumber) : Reaches l m :=
  fun _ _ hf => .step hl hr hd hq hk hf

/-! ### The start of a token -/

/-- The text at the cursor is neither a blank nor a comment, a directive or a mark between
documents. -/
structure StartsToken (rest : List Char) : Prop where
  head : ∀ ch ∈ rest.head?, IsInline ch ∧ ch ≠ ' ' ∧ ch ≠ '#' ∧ ch ≠ '%'
  dashes : ['-', '-', '-'].isPrefixOf rest = false
  dots : ['.', '.', '.'].isPrefixOf rest = false

theorem startsToken_nil : StartsToken [] := ⟨nofun, rfl, rfl⟩

/-- A sign starts a token if it is no dash or point, or stands alone. -/
theorem startsToken_cons (hi : IsInline ch) (hs : ch ∉ [' ', '#', '%'])
    (hm : (ch = '-' ∨ ch = '.') → rest.head? ≠ some ch) : StartsToken (ch :: rest) := by
  simp only [List.mem_cons, List.not_mem_nil, or_false, not_or] at hs
  refine ⟨fun x hx => ?_, ?_, ?_⟩
  · cases hx
    exact ⟨hi, hs⟩
  · cases rest with
    | nil => simp [List.isPrefixOf]
    | cons x rest =>
      refine Bool.eq_false_iff.2 fun h => ?_
      simp only [List.isPrefixOf_cons_cons, Bool.and_eq_true, beq_iff_eq] at h
      obtain ⟨rfl, rfl, -⟩ := h
      exact hm (.inl rfl) rfl
  · cases rest with
    | nil => simp [List.isPrefixOf]
    | cons x rest =>
      refine Bool.eq_false_iff.2 fun h => ?_
      simp only [List.isPrefixOf_cons_cons, Bool.and_eq_true, beq_iff_eq] at h
      obtain ⟨rfl, rfl, -⟩ := h
      exact hm (.inr rfl) rfl

/-- Blanks on a line are skipped. -/
theorem skipBlanks_blanks (hr : l.cursor.rest = List.replicate k ' ' ++ rest)
    (h : StartsToken rest) :
    skipBlanks (fuel + 1) l = { l with cursor := l.cursor.forward k } := by
  have hspan : l.cursor.skipSpaces = l.cursor.forward k := by
    have hs := span_append (p := (· == ' ')) hr
      (fun x hx => by rw [(List.mem_replicate.1 hx).2]; rfl)
      (fun x hx => by simpa using (h.head x hx).2.1)
    rw [List.length_replicate] at hs
    rw [skipSpaces, skip, hs]
  have hpeek : (l.cursor.forward k).peek = rest.head? := by
    rw [peek, forward_rest, hr, List.drop_left' List.length_replicate]
  have hmark : rest.head? ≠ some '#' := fun he => (h.head '#' he).2.2.1 rfl
  have hbreak : (isBreakOrEnd rest.head? && rest.head?.isSome) = false := by
    cases hh : rest.head? with
    | none => rfl
    | some ch => simp [isBreakOrEnd, (h.head ch hh).1.isBreak]
  rw [skipBlanks]
  simp only [hspan, hpeek, hmark, hbreak, if_false, Bool.false_eq_true]

/-- The byte order mark is no blank. -/
theorem toNextToken_eq (hp : l.cursor.peek ≠ some '\ufeff') :
    l.toNextToken = skipBlanks (l.cursor.rest.length + 1) l := by
  simp only [toNextToken, hp, decide_false, Bool.and_false, if_false, Bool.false_eq_true]

theorem toNextToken_blanks (hr : l.cursor.rest = List.replicate k ' ' ++ rest)
    (h : StartsToken rest) : l.toNextToken = { l with cursor := l.cursor.forward k } := by
  rw [toNextToken_eq, skipBlanks_blanks hr h]
  rw [peek, hr]
  cases k with
  | zero => exact fun he => absurd (h.head _ he).1 (by decide)
  | succ k => exact fun he => absurd (Option.some.inj he) (by decide)

theorem toNextToken_start (h : StartsToken l.cursor.rest) : l.toNextToken = l :=
  toNextToken_blanks (k := 0) rfl h

/-- Outside brackets a new line may start with a key. -/
theorem toNextToken_line (hf : l.flowDepth = 0)
    (hr : l.cursor.rest = '\n' :: (List.replicate k ' ' ++ rest)) (h : StartsToken rest) :
    l.toNextToken = { l with cursor := l.cursor.forward (k + 1), keyAllowed := true } := by
  have hpeek : l.cursor.peek = some '\n' := by rw [peek, hr]; rfl
  have hskip : l.cursor.skipSpaces = l.cursor := by
    rw [skipSpaces, skip, span, hr]
    rfl
  have hlength : l.cursor.rest.length = (List.replicate k ' ' ++ rest).length + 1 := by
    rw [hr, List.length_cons]
  have hmark : ¬ some '\n' = some '#' := by decide
  have hbreak : (isBreakOrEnd (some '\n') && (some '\n').isSome) = true := rfl
  have hallowed : (l.keyAllowed || !l.inFlow) = true := by simp [inFlow, hf]
  rw [toNextToken_eq (by simp [hpeek]), hlength, skipBlanks]
  simp only [hskip, hpeek, hmark, hbreak, if_true, if_false, lineBreak_newline hr, hallowed]
  exact skipBlanks_blanks (l := { l with cursor := l.cursor.step, keyAllowed := true })
    (by rw [step_rest, hr]; rfl) h

/-! ### Between the tokens of a block -/

/-- A lexer outside brackets whose tokens are all in its queue. -/
def resting (c : Cursor) (allowed : Bool) (keys : List (Nat × PossibleKey)) (indent : Int)
    (indents : List Int) (queue : List Token) : Lexer := {
  cursor := c, flowDepth := 0, indent, indents, keyAllowed := allowed, keys, taken := 0, queue,
  ended := false }

theorem runs_resting (h : ∀ k ∈ keys, k.2.line ≤ c.line) :
    (resting c allowed keys indent indents queue).Runs := ⟨rfl, h⟩

theorem runs_resting_nil : (resting c allowed [] indent indents queue).Runs := runs_resting nofun

theorem unwindTo_eq_self (h : l.indent ≤ column) (indents : List Int) :
    unwindTo column indents l = l := by
  cases indents with
  | nil => rfl
  | cons outer rest => rw [unwindTo, if_neg (Int.not_lt.2 h)]

theorem unwind_eq_self (h : l.indent ≤ column) : l.unwind column = l := by
  rw [unwind]
  split
  · rfl
  · exact unwindTo_eq_self h _

theorem ready_eq (h : l.toNextToken = m)
    (hs : ∀ k ∈ m.keys, m.isStale k.2 = true → k.2.required = false) :
    l.ready = .ok ({ m with keys := m.keys.filter fun k => !m.isStale k.2 }.unwind m.column) := by
  rw [ready, h, dropStale_eq_ok.2 ⟨hs, rfl⟩]
  rfl

theorem ready_resting (h : StartsToken c.rest) :
    (resting c allowed [] indent indents queue).ready =
      .ok ((resting c allowed [] indent indents queue).unwind c.column) :=
  ready_eq (toNextToken_start h) nofun

theorem ready_eq_self (h : StartsToken l.cursor.rest)
    (hk : ∀ k ∈ l.keys, l.isStale k.2 = false) (hu : l.unwind l.column = l) :
    l.ready = .ok l := by
  have hfilter : l.keys.filter (fun k => !l.isStale k.2) = l.keys := by
    refine List.filter_eq_self.2 fun k hm => ?_
    rw [hk k hm]
    rfl
  rw [ready_eq (toNextToken_start h) fun k hm hs => Bool.noConfusion (hs.symm.trans (hk k hm)),
    hfilter, hu]

/-- In front of a token that belongs to the present block nothing is closed. -/
theorem ready_resting_self (h : StartsToken c.rest) (hi : indent ≤ c.column)
    (hk : ∀ k ∈ keys, (resting c allowed keys indent indents queue).isStale k.2 = false) :
    (resting c allowed keys indent indents queue).ready =
      .ok (resting c allowed keys indent indents queue) :=
  ready_eq_self h hk (unwind_eq_self hi)

theorem reaches_blank (hr : c.rest = ' ' :: rest) (h : StartsToken rest) :
    Reaches (resting c allowed [] indent indents queue)
      (resting c.step allowed [] indent indents queue) := by
  refine .of_ready runs_resting_nil rfl (List.prefix_refl _) ?_
  have hstep : StartsToken c.step.rest := by rwa [step_rest, hr]
  rw [ready_resting hstep]
  exact ready_eq (toNextToken_blanks (l := resting c allowed [] indent indents queue) (k := 1) hr h)
    nofun

/-- Keys that are not required are forgotten on the next line. -/
theorem filter_isStale (h : ∀ k ∈ keys, k.2.line < c.line) :
    keys.filter (fun k => !(resting c allowed keys indent indents queue).isStale k.2) = [] := by
  refine List.filter_eq_nil_iff.2 fun k hk => ?_
  have hne : k.2.line ≠ c.line := Nat.ne_of_lt (h k hk)
  simp [isStale, resting, hne]

theorem reaches_line (hr : c.rest = '\n' :: (List.replicate k ' ' ++ rest)) (h : StartsToken rest)
    (hk : ∀ k ∈ keys, k.2.required = false ∧ k.2.line ≤ c.line) :
    Reaches (resting c allowed keys indent indents queue)
      (resting (c.forward (k + 1)) true [] indent indents queue) := by
  refine .of_ready (runs_resting fun k hm => (hk k hm).2) rfl (List.prefix_refl _) ?_
  have hline := forward_line hr
  have hnext : (resting c allowed keys indent indents queue).toNextToken =
      resting (c.forward (k + 1)) true keys indent indents queue :=
    toNextToken_line rfl hr h
  have hkeys : ∀ k' ∈ keys, k'.2.line < (c.forward (k + 1)).line := by
    intro k' hm
    rw [hline]
    exact Nat.lt_succ_of_le (hk k' hm).2
  rw [ready_resting (by rwa [hline]), ready_eq hnext fun k' hm _ => (hk k' hm).1]
  have hfilter : keys.filter (fun k' =>
      !(resting (c.forward (k + 1)) true keys indent indents queue).isStale k'.2) = [] :=
    filter_isStale hkeys
  exact congrArg (fun keys => Except.ok
    ((resting (c.forward (k + 1)) true keys indent indents queue).unwind _)) hfilter

theorem reaches_forget (h : StartsToken c.rest)
    (hk : ∀ k ∈ keys, k.2.required = false ∧ k.2.line < c.line) :
    Reaches (resting c allowed keys indent indents queue)
      (resting c allowed [] indent indents queue) := by
  refine .of_ready (runs_resting fun k hm => Nat.le_of_lt (hk k hm).2) rfl (List.prefix_refl _) ?_
  have hnext : (resting c allowed keys indent indents queue).toNextToken =
      resting c allowed keys indent indents queue := toNextToken_start h
  rw [ready_resting h, ready_eq hnext fun k hm _ => (hk k hm).1]
  have hfilter : keys.filter (fun k =>
      !(resting c allowed keys indent indents queue).isStale k.2) = [] :=
    filter_isStale fun k hm => (hk k hm).2
  exact congrArg (fun keys => Except.ok ((resting c allowed keys indent indents queue).unwind _))
    hfilter

/-- A block ends in front of a line that is indented less. -/
theorem reaches_blockEnd (h : StartsToken c.rest) (hi : c.column < indent) :
    Reaches (resting c allowed [] indent (outer :: indents) queue)
      (resting c allowed [] outer indents (queue ++ [.blockEnd])) := by
  refine .of_ready runs_resting_nil rfl (List.prefix_append _ _) ?_
  rw [ready_resting h, ready_resting h]
  have hunwind (l : Lexer) (hl : l.flowDepth = 0) : l.unwind c.column =
      unwindTo c.column l.indents l := by
    rw [unwind, inFlow, hl]
    rfl
  rw [hunwind _ rfl, hunwind _ rfl]
  exact congrArg Except.ok (if_pos hi)

/-! ### Signs -/

/-- Where a token at `column` stands in a block: it opens one, or belongs to the present one. -/
inductive Opens (start : Token) (column : Int) :
    (indent : Int) → (indents : List Int) → (queue : List Token) →
      (indents' : List Int) → (queue' : List Token) → Prop
  | opened {indent : Int} {indents : List Int} {queue : List Token} (h : indent < column) :
    Opens start column indent indents queue (indent :: indents) (queue ++ [start])
  | already {indents : List Int} {queue : List Token} :
    Opens start column column indents queue indents queue

variable {start : Token}

theorem Opens.le (h : Opens start column indent indents queue indents' queue') :
    indent ≤ column := by
  cases h with
  | opened h => exact Int.le_of_lt h
  | already => exact Int.le_refl _

theorem Opens.length_le (h : Opens start column indent indents queue indents' queue') :
    queue.length ≤ queue'.length := by
  cases h with
  | opened h => simp
  | already => exact Nat.le_refl _

theorem Opens.openBlock_eq (h : Opens start column indent indents queue indents' queue')
    (more : List Token) :
    (resting c allowed keys indent indents (queue ++ more)).openBlock column queue.length start =
      resting c allowed keys column indents' (queue' ++ more) := by
  cases h with
  | opened h =>
    refine (if_pos h).trans ?_
    simp [insert, resting]
  | already => exact if_neg (Int.lt_irrefl _)

theorem dispatch_eq (hr : l.cursor.rest = ch :: rest) : l.dispatch = l.fetchAt ch := by
  have hp : l.cursor.peek = some ch := by rw [peek, hr]; rfl
  rw [dispatch, hp]

theorem atMark_eq_false {mark : List Char} (h : mark.isPrefixOf c.rest = false) :
    c.atMark mark = false := by
  rw [atMark, h]
  rfl

theorem peekAt_one (hr : c.rest = ch :: rest) : c.peekAt 1 = rest.head? := by
  rw [peekAt, hr, List.getElem?_cons_succ, List.head?_eq_getElem?]

theorem fetchAt_dash (h : StartsToken l.cursor.rest) (hr : l.cursor.rest = '-' :: ' ' :: rest) :
    l.fetchAt '-' = l.fetchBlockEntry := by
  simp [fetchAt, atMark_eq_false h.dashes, atMark_eq_false h.dots, peekAt_one hr, isBlankOrEnd]

theorem fetchAt_question (h : StartsToken l.cursor.rest) (hr : l.cursor.rest = '?' :: ' ' :: rest) :
    l.fetchAt '?' = l.fetchKey := by
  simp [fetchAt, atMark_eq_false h.dashes, atMark_eq_false h.dots, peekAt_one hr, isBlankOrEnd]

theorem fetchAt_colon (h : StartsToken l.cursor.rest) (hr : l.cursor.rest = ':' :: rest)
    (hb : isBlankOrEnd rest.head? = true) : l.fetchAt ':' = l.fetchValue := by
  simp [fetchAt, atMark_eq_false h.dashes, atMark_eq_false h.dots, peekAt_one hr, hb]

theorem startsToken_sign (hc : ch ∈ ['-', '?', ':']) : StartsToken (ch :: ' ' :: rest) := by
  simp only [List.mem_cons, List.not_mem_nil, or_false] at hc
  refine startsToken_cons ?_ ?_ ?_
  · rcases hc with rfl | rfl | rfl <;> decide
  · rcases hc with rfl | rfl | rfl <;> decide
  · intro _ he
    rcases hc with rfl | rfl | rfl <;> exact absurd (Option.some.inj he) (by decide)

/-- A block opens in front of the token at the cursor. -/
theorem Opens.here (h : Opens start c.column indent indents queue indents' queue') :
    (resting c true [] indent indents queue).openBlock c.column queue.length start =
      resting c true [] c.column indents' queue' := by
  have hopen : (resting c true [] indent indents (queue ++ [])).openBlock c.column queue.length
      start = resting c true [] c.column indents' (queue' ++ []) := h.openBlock_eq []
  rwa [List.append_nil, List.append_nil] at hopen

theorem Opens.fetchBlockEntry_eq
    (h : Opens .blockSequenceStart c.column indent indents queue indents' queue') :
    (resting c true [] indent indents queue).fetchBlockEntry =
      .ok (resting c.step true [] c.column indents' (queue' ++ [.blockEntry])) := by
  have hfetch : (resting c true [] indent indents queue).fetchBlockEntry = (do
      let l ← { (resting c true [] indent indents queue).openBlock c.column queue.length
        .blockSequenceStart with keyAllowed := true }.dropKey
      pure (l.emitSign .blockEntry 1)) := by
    simp [fetchBlockEntry, resting, inFlow, Lexer.column]
  rw [hfetch, h.here]
  rfl

theorem Opens.fetchKey_eq
    (h : Opens .blockMappingStart c.column indent indents queue indents' queue') :
    (resting c true [] indent indents queue).fetchKey =
      .ok (resting c.step true [] c.column indents' (queue' ++ [.key])) := by
  have hfetch : (resting c true [] indent indents queue).fetchKey = (do
      let l := (resting c true [] indent indents queue).openBlock c.column queue.length
        .blockMappingStart
      let l ← { l with keyAllowed := !l.inFlow }.dropKey
      pure (l.emitSign .key 1)) := by
    simp [fetchKey, resting, inFlow, Lexer.column]
  rw [hfetch, h.here]
  rfl

theorem Opens.fetchValue_eq
    (h : Opens .blockMappingStart c.column indent indents queue indents' queue') :
    (resting c true [] indent indents queue).fetchValue =
      .ok (resting c.step true [] c.column indents' (queue' ++ [.value])) := by
  have hfetch : (resting c true [] indent indents queue).fetchValue = (do
      let l := (resting c true [] indent indents queue).openBlock c.column queue.length
        .blockMappingStart
      let l ← { l with keyAllowed := !l.inFlow }.dropKey
      pure (l.emitSign .value 1)) := by
    simp [fetchValue, resting, inFlow, Lexer.column]
  rw [hfetch, h.here]
  rfl

theorem reaches_sign (hs : StartsToken c.rest) (hr : c.rest = ch :: rest)
    (ho : Opens start c.column indent indents queue indents' queue')
    (hf : (resting c true [] indent indents queue).fetchAt ch =
      .ok (resting c.step true [] c.column indents' (queue' ++ [token]))) :
    Reaches (resting c true [] indent indents queue)
      (resting c.step true [] c.column indents' (queue' ++ [token])) := by
  have hlength := ho.length_le
  refine .step runs_resting_nil (ready_resting_self hs ho.le nofun) ?_ ?_ nofun
  · rw [dispatch_eq hr, hf]
  · simp only [resting, List.length_append, List.length_singleton]
    omega

/-- The sign in front of an item. -/
theorem reaches_entry (hr : c.rest = '-' :: ' ' :: rest)
    (ho : Opens .blockSequenceStart c.column indent indents queue indents' queue') :
    Reaches (resting c true [] indent indents queue)
      (resting c.step true [] c.column indents' (queue' ++ [.blockEntry])) := by
  have hs : StartsToken c.rest := hr ▸ startsToken_sign (by decide)
  exact reaches_sign hs hr ho ((fetchAt_dash hs hr).trans ho.fetchBlockEntry_eq)

/-- The sign in front of a key that does not share its line. -/
theorem reaches_question (hr : c.rest = '?' :: ' ' :: rest)
    (ho : Opens .blockMappingStart c.column indent indents queue indents' queue') :
    Reaches (resting c true [] indent indents queue)
      (resting c.step true [] c.column indents' (queue' ++ [.key])) := by
  have hs : StartsToken c.rest := hr ▸ startsToken_sign (by decide)
  exact reaches_sign hs hr ho ((fetchAt_question hs hr).trans ho.fetchKey_eq)

/-- The colon at the start of a line. -/
theorem reaches_colon (hr : c.rest = ':' :: ' ' :: rest) :
    Reaches (resting c true [] c.column indents queue)
      (resting c.step true [] c.column indents (queue ++ [.value])) := by
  have hs : StartsToken c.rest := hr ▸ startsToken_sign (by decide)
  have ho : Opens .blockMappingStart c.column c.column indents queue indents queue := .already
  exact reaches_sign hs hr ho ((fetchAt_colon hs hr rfl).trans ho.fetchValue_eq)

/-- The colon behind a key turns the token in front of it into a key. -/
theorem reaches_keyColon (hr : c.rest = ':' :: rest) (hb : isBlankOrEnd rest.head? = true)
    (ho : Opens .blockMappingStart key.column indent indents queue indents' queue')
    (hn : key.tokenNumber = queue.length) (hline : key.line = c.line)
    (hindex : c.index - key.index ≤ 1024) (hcolumn : key.column ≤ c.column) :
    Reaches (resting c false [(0, key)] indent indents (queue ++ [token]))
      (resting c.step false [] key.column indents' (queue' ++ [.key, token, .value])) := by
  have hs : StartsToken c.rest := by
    rw [hr]
    exact startsToken_cons (by decide) (by decide) (fun h => absurd h (by decide))
  have hstale : (resting c false [(0, key)] indent indents (queue ++ [token])).isStale key =
      false := by
    have h : ¬ 1024 < c.index - key.index := Nat.not_lt.2 hindex
    simp [isStale, resting, hline, h]
  have hindent : indent ≤ c.column := Int.le_trans ho.le (Int.ofNat_le.2 hcolumn)
  have hready : (resting c false [(0, key)] indent indents (queue ++ [token])).ready =
      .ok (resting c false [(0, key)] indent indents (queue ++ [token])) :=
    ready_resting_self hs hindent (by simpa using hstale)
  have hfetch : (resting c false [(0, key)] indent indents (queue ++ [token])).fetchValue =
      .ok (((resting c false [] indent indents (queue ++ [.key, token])).openBlock key.column
        queue.length .blockMappingStart).emitSign .value 1) := by
    have hinFlow (l : Lexer) (hf : l.flowDepth = 0) : l.inFlow = false := by
      rw [inFlow, hf]
      rfl
    simp [fetchValue, resting, hn, insert, hinFlow]
  refine .step (runs_resting ?_) hready ?_ ?_ ?_
  · simp [hline]
  · rw [dispatch_eq hr, fetchAt_colon hs hr hb, hfetch, ho.openBlock_eq]
    simp [emitSign, resting, forward]
  · have := ho.length_le
    simp [resting]
    omega
  · exact fun k hk => absurd hk List.not_mem_nil

end ScenarioCompiler.Yaml.Lexer
