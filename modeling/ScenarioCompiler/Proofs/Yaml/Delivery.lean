import ScenarioCompiler.Proofs.Outcome
import ScenarioCompiler.Proofs.Yaml.Cursor
import ScenarioCompiler.Yaml.Lexer

namespace ScenarioCompiler.Yaml.Lexer

variable {l full m : Lexer} {delivered : List Token}

/-! ### A lexer whose tokens never leave the queue -/

/-- The second lexer is the first one as if the delivered tokens were still in its queue. -/
structure Refills (delivered : List Token) (l full : Lexer) : Prop where
  taken : l.taken = delivered.length
  eq : full = { l with queue := delivered ++ l.queue, taken := 0 }

/-- Both fail in the same way, or the results of the two lexers correspond. -/
def Refilled (delivered : List Token) : Except Error Lexer → Except Error Lexer → Prop
  | .ok l, .ok full => Refills delivered l full
  | .error e, .error e' => e = e'
  | _, _ => False

theorem Refilled.exists_ok {y : Except Error Lexer} (h : Refilled delivered (.ok l) y) :
    ∃ full, y = .ok full ∧ Refills delivered l full := by
  cases y with
  | error e => exact h.elim
  | ok full => exact ⟨full, rfl, h⟩

theorem Refilled.of_ok {x : Except Error Lexer} (h : Refilled delivered x (.ok full)) :
    ∃ l, x = .ok l ∧ Refills delivered l full := by
  cases x with
  | error e => exact h.elim
  | ok l => exact ⟨l, rfl, h⟩

theorem Refilled.of_error {x : Except Error Lexer} {e : Error}
    (h : Refilled delivered x (.error e)) : x = .error e := by
  cases x with
  | error e' => exact congrArg Except.error h
  | ok l => exact h.elim

theorem Refilled.bind_of_eq_ok {x y : Except Error Lexer} {f g : Lexer → Except Error Lexer}
    (h : Refilled delivered x y)
    (hf : ∀ l full, x = .ok l → Refills delivered l full → Refilled delivered (f l) (g full)) :
    Refilled delivered (x >>= f) (y >>= g) := by
  cases y with
  | error e =>
    rw [h.of_error]
    rfl
  | ok full =>
    obtain ⟨l, rfl, hl⟩ := h.of_ok
    exact hf l full rfl hl

theorem Refilled.bind {x y : Except Error Lexer} {f g : Lexer → Except Error Lexer}
    (h : Refilled delivered x y)
    (hf : ∀ l full, Refills delivered l full → Refilled delivered (f l) (g full)) :
    Refilled delivered (x >>= f) (y >>= g) :=
  h.bind_of_eq_ok fun l full _ => hf l full

theorem Refilled.ite {p : Prop} [Decidable p] {x y x' y' : Except Error Lexer}
    (hx : Refilled delivered x y) (hx' : Refilled delivered x' y') :
    Refilled delivered (if p then x else x') (if p then y else y') := by
  split
  · exact hx
  · exact hx'

theorem refilled_error (e : Error) : Refilled delivered (.error e) (.error e) := rfl

/-- Scanning what stands at the cursor does not depend on the queue. -/
theorem refilled_scan {α : Type} (x : Except Error α) {f g : α → Except Error Lexer}
    (h : ∀ a, Refilled delivered (f a) (g a)) : Refilled delivered (x >>= f) (x >>= g) := by
  cases x with
  | error e => rfl
  | ok a => exact h a

namespace Refills

variable (h : Refills delivered l full)

include h

theorem cursor_eq : full.cursor = l.cursor := by rw [h.eq]

theorem flowDepth_eq : full.flowDepth = l.flowDepth := by rw [h.eq]

theorem inFlow_eq : full.inFlow = l.inFlow := by rw [h.eq]; rfl

theorem indent_eq : full.indent = l.indent := by rw [h.eq]

theorem column_eq : full.column = l.column := by rw [h.eq]; rfl

theorem keyAllowed_eq : full.keyAllowed = l.keyAllowed := by rw [h.eq]

theorem keys_eq : full.keys = l.keys := by rw [h.eq]

/-- The number of the next token is the same. -/
theorem number_eq : full.taken + full.queue.length = l.taken + l.queue.length := by
  rw [h.eq, h.taken]
  simp

theorem emit (token : Token) : Refills delivered (l.emit token) (full.emit token) := by
  obtain ⟨ht, rfl⟩ := h
  exact ⟨ht, by simp [Lexer.emit]⟩

theorem emitSign (token : Token) (width : Nat) :
    Refills delivered (l.emitSign token width) (full.emitSign token width) := by
  obtain ⟨ht, rfl⟩ := h
  exact ⟨ht, by simp [Lexer.emitSign]⟩

theorem insert {number : Nat} (hn : delivered.length ≤ number) (token : Token) :
    Refills delivered (l.insert number token) (full.insert number token) := by
  obtain ⟨ht, rfl⟩ := h
  obtain ⟨k, rfl⟩ := Nat.exists_eq_add_of_le hn
  refine ⟨ht, ?_⟩
  simp only [Lexer.insert, ht, Nat.sub_zero, Nat.add_sub_cancel_left, List.take_length_add_append,
    List.drop_length_add_append, List.append_assoc]

theorem openBlock {number : Nat} (hn : delivered.length ≤ number) (column : Int) (token : Token) :
    Refills delivered (l.openBlock column number token) (full.openBlock column number token) := by
  rw [Lexer.openBlock, Lexer.openBlock, h.indent_eq]
  split
  · have hopen : Refills delivered { l with indent := column, indents := l.indent :: l.indents }
        { full with indent := column, indents := l.indent :: full.indents } := by
      obtain ⟨ht, rfl⟩ := h
      exact ⟨ht, rfl⟩
    exact hopen.insert hn token
  · exact h

theorem dropKey : Refilled delivered l.dropKey full.dropKey := by
  obtain ⟨ht, rfl⟩ := h
  unfold Lexer.dropKey
  dsimp only
  cases l.keys.lookup l.flowDepth with
  | none => exact ⟨ht, rfl⟩
  | some key =>
    dsimp only
    split
    · rfl
    · exact ⟨ht, rfl⟩

theorem saveKey : Refilled delivered l.saveKey full.saveKey := by
  rw [Lexer.saveKey, Lexer.saveKey, h.keyAllowed_eq]
  split
  · refine h.dropKey.bind fun l full h => ?_
    rw [h.number_eq, h.inFlow_eq, h.indent_eq, h.column_eq, h.cursor_eq, h.keys_eq, h.flowDepth_eq]
    obtain ⟨ht, rfl⟩ := h
    exact ⟨ht, rfl⟩
  · exact h

theorem unwindTo (column : Int) (indents : List Int) :
    Refills delivered (Lexer.unwindTo column indents l) (Lexer.unwindTo column indents full) := by
  induction indents generalizing l full with
  | nil => exact h
  | cons outer rest ih =>
    rw [Lexer.unwindTo, Lexer.unwindTo, h.indent_eq]
    split
    · refine ih ?_
      obtain ⟨ht, rfl⟩ := h
      exact ⟨ht, by simp [Lexer.emit]⟩
    · exact h

theorem unwind (column : Int) : Refills delivered (l.unwind column) (full.unwind column) := by
  have hi : full.indents = l.indents := by rw [h.eq]
  rw [Lexer.unwind, Lexer.unwind, h.inFlow_eq, hi]
  split
  · exact h
  · exact h.unwindTo _ _

theorem setKeyAllowed (allowed : Bool) : Refills delivered { l with keyAllowed := allowed }
    { full with keyAllowed := allowed } := by
  obtain ⟨ht, rfl⟩ := h
  exact ⟨ht, rfl⟩

theorem setCursor (c : Cursor) (allowed : Bool) :
    Refills delivered { l with keyAllowed := allowed, cursor := c }
      { full with keyAllowed := allowed, cursor := c } := by
  obtain ⟨ht, rfl⟩ := h
  exact ⟨ht, rfl⟩

theorem endBlocks : Refilled delivered l.endBlocks full.endBlocks :=
  (h.unwind (-1)).dropKey.bind fun _ _ h => h.setKeyAllowed false

theorem fetchEnd : Refilled delivered l.fetchEnd full.fetchEnd := by
  refine h.endBlocks.bind fun l full h => ?_
  obtain ⟨ht, rfl⟩ := h
  exact ⟨ht, by simp⟩

theorem fetchDirective : Refilled delivered l.fetchDirective full.fetchDirective := by
  refine h.endBlocks.bind fun l full h => ?_
  rw [h.cursor_eq]
  refine refilled_scan _ fun (content, c) => ?_
  obtain ⟨ht, rfl⟩ := h
  exact ⟨ht, by simp [Lexer.emit]⟩

theorem fetchDocumentMark (token : Token) :
    Refilled delivered (l.fetchDocumentMark token) (full.fetchDocumentMark token) :=
  h.endBlocks.bind fun _ _ h => h.emitSign token 3

theorem fetchFlowStart (token : Token) :
    Refilled delivered (l.fetchFlowStart token) (full.fetchFlowStart token) := by
  refine h.saveKey.bind fun l full h => ?_
  obtain ⟨ht, rfl⟩ := h
  exact ⟨ht, by simp [Lexer.emitSign]⟩

theorem fetchFlowEnd (token : Token) :
    Refilled delivered (l.fetchFlowEnd token) (full.fetchFlowEnd token) := by
  refine h.dropKey.bind fun l full h => ?_
  obtain ⟨ht, rfl⟩ := h
  exact ⟨ht, by simp [Lexer.emitSign]⟩

theorem fetchFlowEntry : Refilled delivered l.fetchFlowEntry full.fetchFlowEntry :=
  (h.setKeyAllowed true).dropKey.bind fun _ _ h => h.emitSign .flowEntry 1

theorem number_le : delivered.length ≤ l.taken + l.queue.length := by
  rw [h.taken]
  exact Nat.le_add_right _ _

theorem openHere (token : Token) :
    Refills delivered
      (if l.inFlow then l else l.openBlock l.column (l.taken + l.queue.length) token)
      (if full.inFlow then full
        else full.openBlock full.column (full.taken + full.queue.length) token) := by
  rw [h.inFlow_eq, h.column_eq, h.number_eq]
  split
  · exact h
  · exact h.openBlock h.number_le _ _

theorem barred_iff :
    (!full.inFlow && !full.keyAllowed) = true ↔ (!l.inFlow && !l.keyAllowed) = true := by
  rw [h.inFlow_eq, h.keyAllowed_eq]

theorem fetchBlockEntry : Refilled delivered l.fetchBlockEntry full.fetchBlockEntry := by
  unfold Lexer.fetchBlockEntry
  by_cases hb : (!l.inFlow && !l.keyAllowed) = true
  · rw [if_pos hb, if_pos (h.barred_iff.2 hb)]
    rfl
  · rw [if_neg hb, if_neg fun hf => hb (h.barred_iff.1 hf)]
    exact ((h.openHere _).setKeyAllowed true).dropKey.bind fun _ _ h => h.emitSign .blockEntry 1

theorem fetchKey : Refilled delivered l.fetchKey full.fetchKey := by
  unfold Lexer.fetchKey
  by_cases hb : (!l.inFlow && !l.keyAllowed) = true
  · rw [if_pos hb, if_pos (h.barred_iff.2 hb)]
    rfl
  · rw [if_neg hb, if_neg fun hf => hb (h.barred_iff.1 hf)]
    have ho := h.openHere .blockMappingStart
    refine Refilled.bind ?_ fun _ _ h => h.emitSign .key 1
    rw [ho.inFlow_eq]
    exact (ho.setKeyAllowed _).dropKey

/-- A key that gets its colon is one whose tokens have not been delivered. -/
theorem fetchValue (hk : ∀ k ∈ l.keys, delivered.length ≤ k.2.tokenNumber) :
    Refilled delivered l.fetchValue full.fetchValue := by
  unfold Lexer.fetchValue
  rw [h.keys_eq, h.flowDepth_eq]
  cases hl : l.keys.lookup l.flowDepth with
  | some key =>
    obtain ⟨before, after, he, -⟩ := List.lookup_eq_some_iff.1 hl
    have hn : delivered.length ≤ key.tokenNumber := hk (l.flowDepth, key) (by simp [he])
    have hset : Refills delivered
        { l with keys := l.keys.filter (·.1 != l.flowDepth), keyAllowed := false }
        { full with
          flowDepth := l.flowDepth, keys := l.keys.filter (·.1 != l.flowDepth),
          keyAllowed := false } := by
      obtain ⟨ht, rfl⟩ := h
      exact ⟨ht, rfl⟩
    have hkey := hset.insert hn .key
    refine Refills.emitSign ?_ .value 1
    rw [hkey.inFlow_eq]
    split
    · exact hkey
    · exact hkey.openBlock hn _ _
  | none =>
    by_cases hb : (!l.inFlow && !l.keyAllowed) = true
    · rw [if_pos hb, if_pos (h.barred_iff.2 hb)]
      rfl
    · rw [if_neg hb, if_neg fun hf => hb (h.barred_iff.1 hf)]
      have ho := h.openHere .blockMappingStart
      refine Refilled.bind ?_ fun _ _ h => h.emitSign .value 1
      rw [ho.inFlow_eq]
      exact (ho.setKeyAllowed _).dropKey

/-- A scan at the cursor, with a token for what was read. -/
theorem scanned {α : Type} {scan : Cursor → Except Error (α × Cursor)} (token : α → Token)
    (allowed : α → Bool) :
    Refilled delivered
      (do let (a, c) ← scan l.cursor
          pure ({ l with keyAllowed := allowed a, cursor := c }.emit (token a)))
      (do let (a, c) ← scan full.cursor
          pure ({ full with keyAllowed := allowed a, cursor := c }.emit (token a))) := by
  rw [h.cursor_eq]
  exact refilled_scan _ fun (a, c) => (h.setCursor c (allowed a)).emit (token a)

theorem fetchAnchor (token : String → Token) :
    Refilled delivered (l.fetchAnchor token) (full.fetchAnchor token) :=
  h.saveKey.bind fun _ _ h => h.scanned token fun _ => false

theorem fetchTag : Refilled delivered l.fetchTag full.fetchTag :=
  h.saveKey.bind fun _ _ h => h.scanned id fun _ => false

theorem fetchQuoted (double : Bool) :
    Refilled delivered (l.fetchQuoted double) (full.fetchQuoted double) :=
  h.saveKey.bind fun _ _ h =>
    h.scanned (fun text => .scalar (String.ofList text) false) fun _ => false

theorem fetchBlockScalar (fold : Bool) :
    Refilled delivered (l.fetchBlockScalar fold) (full.fetchBlockScalar fold) := by
  refine (h.setKeyAllowed true).dropKey.bind fun l full h => ?_
  rw [h.cursor_eq, h.indent_eq]
  refine refilled_scan _ fun (text, c) => ?_
  obtain ⟨ht, rfl⟩ := h
  exact ⟨ht, by simp [Lexer.emit]⟩

theorem fetchPlain : Refilled delivered l.fetchPlain full.fetchPlain := by
  refine h.saveKey.bind fun l full h => ?_
  have hscan : Plain.scan full.inFlow (full.indent + 1) full.cursor =
      Plain.scan l.inFlow (l.indent + 1) l.cursor := by
    rw [h.cursor_eq, h.indent_eq, h.inFlow_eq]
  rw [hscan]
  rcases Plain.scan l.inFlow (l.indent + 1) l.cursor with ⟨text, c, ended⟩
  exact (h.setCursor c ended).emit _

theorem fetchAt (hk : ∀ k ∈ l.keys, delivered.length ≤ k.2.tokenNumber) (ch : Char) :
    Refilled delivered (l.fetchAt ch) (full.fetchAt ch) := by
  have hstart : full.startsPlain ch = l.startsPlain ch := by
    rw [startsPlain, startsPlain, h.cursor_eq, h.inFlow_eq]
  unfold Lexer.fetchAt
  rw [h.cursor_eq, h.inFlow_eq, hstart]
  refine .ite h.fetchDirective ?_
  refine .ite (h.fetchDocumentMark _) ?_
  refine .ite (h.fetchDocumentMark _) ?_
  refine .ite (h.fetchFlowStart _) ?_
  refine .ite (h.fetchFlowStart _) ?_
  refine .ite (h.fetchFlowEnd _) ?_
  refine .ite (h.fetchFlowEnd _) ?_
  refine .ite h.fetchFlowEntry ?_
  refine .ite h.fetchBlockEntry ?_
  refine .ite h.fetchKey ?_
  refine .ite (h.fetchValue hk) ?_
  refine .ite (h.fetchAnchor _) ?_
  refine .ite (h.fetchAnchor _) ?_
  refine .ite h.fetchTag ?_
  refine .ite (h.fetchBlockScalar _) ?_
  refine .ite (h.fetchBlockScalar _) ?_
  refine .ite (h.fetchQuoted _) ?_
  refine .ite (h.fetchQuoted _) ?_
  exact .ite h.fetchPlain (refilled_error _)

end Refills

/-! ### The next token -/

/-- A lexer in front of the next token, with its blocks closed that end there. -/
def ready (l : Lexer) : Except Error Lexer := do
  let l ← l.toNextToken.dropStale
  pure (l.unwind l.column)

/-- Reads the tokens at the cursor of such a lexer. -/
def dispatch (l : Lexer) : Except Error Lexer :=
  match l.cursor.peek with
  | none => l.fetchEnd
  | some ch => l.fetchAt ch

theorem fetch_eq (l : Lexer) : l.fetch = l.ready >>= dispatch := by
  rw [fetch, ready]
  cases l.toNextToken.dropStale <;> rfl

/-- Blanks are skipped in the same way whatever tokens and keys there are. -/
theorem exists_skipBlanks (fuel : Nat) (c : Cursor) (flowDepth : Nat) (allowed : Bool) :
    ∃ c' allowed', c.Before c' ∧ ∀ l : Lexer, l.cursor = c → l.flowDepth = flowDepth →
      l.keyAllowed = allowed →
      skipBlanks fuel l = { l with cursor := c', keyAllowed := allowed' } := by
  induction fuel generalizing c allowed with
  | zero =>
    refine ⟨c, allowed, .refl c, ?_⟩
    rintro l rfl rfl rfl
    rfl
  | succ fuel ih =>
    -- behind the blanks at the cursor and a comment
    let d := if c.skipSpaces.peek = some '#' then c.skipSpaces.skip (!isBreak ·) else c.skipSpaces
    have hd : c.Before d := by
      dsimp only [d]
      split
      · exact (Cursor.before_skip _ _).trans (Cursor.before_skip _ _)
      · exact Cursor.before_skip _ _
    by_cases hb : (isBreakOrEnd d.peek && d.peek.isSome) = true
    · obtain ⟨c', allowed', hc', hl⟩ := ih d.lineBreak.2 (allowed || !(flowDepth != 0))
      refine ⟨c', allowed', (hd.trans (Cursor.before_lineBreak d)).trans hc', ?_⟩
      rintro l rfl rfl rfl
      rw [skipBlanks]
      change (if (isBreakOrEnd d.peek && d.peek.isSome) = true then _ else _) = _
      rw [if_pos hb]
      exact hl { l with cursor := d.lineBreak.2, keyAllowed := l.keyAllowed || !l.inFlow } rfl rfl
        rfl
    · refine ⟨d, allowed, hd, ?_⟩
      rintro l rfl rfl rfl
      rw [skipBlanks]
      change (if (isBreakOrEnd d.peek && d.peek.isSome) = true then _ else _) = _
      rw [if_neg hb]

theorem exists_toNextToken (c : Cursor) (flowDepth : Nat) (allowed : Bool) :
    ∃ c' allowed', c.Before c' ∧ ∀ l : Lexer, l.cursor = c → l.flowDepth = flowDepth →
      l.keyAllowed = allowed → l.toNextToken = { l with cursor := c', keyAllowed := allowed' } := by
  let d := if c.index = 0 && c.peek = some '\ufeff' then c.step else c
  have hd : c.Before d := by
    dsimp only [d]
    split
    · exact Cursor.before_step c
    · exact .refl c
  obtain ⟨c', allowed', hc', hl⟩ := exists_skipBlanks (d.rest.length + 1) d flowDepth allowed
  refine ⟨c', allowed', hd.trans hc', ?_⟩
  rintro l rfl rfl rfl
  exact hl { l with cursor := d } rfl rfl rfl

theorem keys_unwind (l : Lexer) (column : Int) : (l.unwind column).keys = l.keys := by
  have hto (indents : List Int) (l : Lexer) : (unwindTo column indents l).keys = l.keys := by
    induction indents generalizing l with
    | nil => rfl
    | cons outer rest ih =>
      rw [unwindTo]
      split
      · rw [ih]
        rfl
      · rfl
  rw [unwind]
  split
  · rfl
  · exact hto _ _

namespace Refills

variable (h : Refills delivered l full)

include h

theorem toNextToken : Refills delivered l.toNextToken full.toNextToken := by
  obtain ⟨c, allowed, -, hl⟩ := exists_toNextToken l.cursor l.flowDepth l.keyAllowed
  rw [hl l rfl rfl rfl, hl full h.cursor_eq h.flowDepth_eq h.keyAllowed_eq]
  exact h.setCursor c allowed

theorem dropStale : Refilled delivered l.dropStale full.dropStale := by
  have hstale : full.isStale = l.isStale := by
    funext key
    rw [isStale, isStale, h.cursor_eq]
  unfold Lexer.dropStale
  rw [h.keys_eq, hstale]
  refine .ite rfl ?_
  obtain ⟨ht, rfl⟩ := h
  exact ⟨ht, rfl⟩

theorem ready : Refilled delivered l.ready full.ready := by
  refine h.toNextToken.dropStale.bind fun l full h => ?_
  rw [h.column_eq]
  exact h.unwind l.column

theorem dispatch (hk : ∀ k ∈ l.keys, delivered.length ≤ k.2.tokenNumber) :
    Refilled delivered l.dispatch full.dispatch := by
  rw [Lexer.dispatch, Lexer.dispatch, h.cursor_eq]
  cases l.cursor.peek with
  | none => exact h.fetchEnd
  | some ch => exact h.fetchAt hk ch

end Refills

theorem dropStale_eq_ok : l.dropStale = .ok m ↔
    (∀ k ∈ l.keys, l.isStale k.2 = true → k.2.required = false) ∧
      m = { l with keys := l.keys.filter fun k => !l.isStale k.2 } := by
  unfold dropStale
  by_cases h : (l.keys.any fun k => l.isStale k.2 && k.2.required) = true
  · rw [if_pos h]
    obtain ⟨k, hk, hs⟩ := List.any_eq_true.1 h
    rw [Bool.and_eq_true] at hs
    refine ⟨fun h => (by cases h), fun h => ?_⟩
    rw [h.1 k hk hs.1] at hs
    exact absurd hs.2 (by decide)
  · rw [if_neg h, pure_eq_ok]
    have hall : ∀ k ∈ l.keys, l.isStale k.2 = true → k.2.required = false := by
      intro k hk hs
      refine Bool.eq_false_iff.2 fun hr => h (List.any_eq_true.2 ⟨k, hk, ?_⟩)
      rw [hs, hr]
      rfl
    exact ⟨fun h => ⟨hall, h.symm⟩, fun h => h.2.symm⟩

/-- No key comes before the next token is read. -/
theorem mem_keys_of_ready (h : l.ready = .ok m) : ∀ k ∈ m.keys, k ∈ l.keys := by
  obtain ⟨c, allowed, -, hnext⟩ := exists_toNextToken l.cursor l.flowDepth l.keyAllowed
  rw [ready, hnext l rfl rfl rfl] at h
  obtain ⟨l', hd, hm⟩ := bind_eq_ok.1 h
  obtain ⟨-, rfl⟩ := dropStale_eq_ok.1 hd
  cases hm
  intro k hk
  rw [keys_unwind] at hk
  exact (List.mem_filter.1 hk).1

/-- Reading the next token does not depend on the tokens that were delivered. -/
theorem Refills.fetch (h : Refills delivered l full)
    (hk : ∀ k ∈ l.keys, delivered.length ≤ k.2.tokenNumber) :
    Refilled delivered l.fetch full.fetch := by
  rw [fetch_eq, fetch_eq]
  refine h.ready.bind_of_eq_ok fun l' full' hl h' => ?_
  exact h'.dispatch fun k hm => hk k (mem_keys_of_ready hl k hm)

end ScenarioCompiler.Yaml.Lexer
