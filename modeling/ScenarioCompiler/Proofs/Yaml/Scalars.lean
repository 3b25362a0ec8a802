import ScenarioCompiler.Proofs.Yaml.Signs
import ScenarioCompiler.Proofs.Yaml.Tokens

namespace ScenarioCompiler.Yaml.Lexer

open Cursor Writer

variable {l m : Lexer} {c : Cursor} {ch : Char} {tail rest : List Char} {allowed ended : Bool}
  {indent : Int} {indents indents' : List Int} {queue queue' : List Token} {k column : Nat}
  {p : Place} {style : Style} {text : String}

/-! ### The first character of a scalar -/

/-- A run of signs is no part of a text by being written. -/
theorem isPrefixOf_plainChars {mark : List Char} (hm : ∀ x ∈ mark, x ≠ '\n')
    (ht : ∀ x ∈ tail.head?, x ∉ mark) {cs : List Char} {column : Nat} {afterSpace : Bool}
    (h : mark.isPrefixOf (plainChars p column afterSpace cs ++ tail) = true) :
    mark.isPrefixOf cs = true := by
  induction mark generalizing cs column afterSpace with
  | nil => simp
  | cons m mark ih =>
    cases cs with
    | nil =>
      cases tail with
      | nil => exact h
      | cons x tail =>
        rw [plainChars, List.nil_append, List.isPrefixOf_cons_cons, Bool.and_eq_true,
          beq_iff_eq] at h
        exact absurd (h.1 ▸ List.mem_cons_self) (ht x rfl)
    | cons ch cs =>
      rcases Plain.plainChars_cons p column afterSpace ch cs with ⟨-, -, -, -, hw⟩ | hw
      · -- a blank that is written as the end of a line matches no sign of the mark
        rw [hw, newLine, List.cons_append, List.cons_append, List.isPrefixOf_cons_cons,
          Bool.and_eq_true, beq_iff_eq] at h
        exact absurd h.1 (hm m List.mem_cons_self)
      · rw [hw, List.cons_append, List.isPrefixOf_cons_cons, Bool.and_eq_true] at h
        rw [List.isPrefixOf_cons_cons, Bool.and_eq_true]
        refine ⟨h.1, ih (fun x hx => hm x (List.mem_cons_of_mem _ hx)) (fun x hx hmem => ?_) h.2⟩
        exact ht x hx (List.mem_cons_of_mem _ hmem)

/-- What is written behind a scalar goes on with neither its quotes nor a document mark. -/
def EndsScalar (tail : List Char) : Prop := ∀ x ∈ tail.head?, x ∉ ['\'', '-', '.']

theorem startsToken_plainChars {cs : List Char} (h : allowsPlain cs = true) (ht : EndsScalar tail)
    (p : Place) (column : Nat) : StartsToken (plainChars p column false cs ++ tail) := by
  simp only [allowsPlain, Bool.and_eq_true, List.all_eq_true] at h
  obtain ⟨⟨ho, hb⟩, hc⟩ := h
  cases cs with
  | nil => exact Bool.noConfusion hb
  | cons ch cs =>
    obtain ⟨hfirst, -, hdash, hdot⟩ := Plain.beginsPlain_cons hb
    obtain ⟨hn, -, -, -⟩ := Plain.continuesPlain_cons hc
    have hmark {mark : List Char} (hm : ∀ x ∈ mark, x ∈ ['-', '.'])
        (h : mark.isPrefixOf (ch :: cs) = false) :
        mark.isPrefixOf (plainChars p column false (ch :: cs) ++ tail) = false := by
      refine Bool.eq_false_iff.2 fun hp => Bool.eq_false_iff.1 h (isPrefixOf_plainChars ?_ ?_ hp)
      · rintro x hx rfl
        exact absurd (hm _ hx) (by decide)
      · exact fun x hx hmem => ht x hx (List.mem_cons_of_mem _ (hm x hmem))
    refine ⟨fun x hx => ?_, hmark (by simp) hdash, hmark (by simp) hdot⟩
    have hs : ch ≠ ' ' := by
      rintro rfl
      exact hfirst (by decide)
    rw [Plain.plainChars_cons_word hs] at hx
    cases hx
    refine ⟨isInline_of_isOrdinary (ho ch List.mem_cons_self) hn, hs, ?_, ?_⟩
    · rintro rfl
      exact hfirst (by decide)
    · rintro rfl
      exact hfirst (by decide)

theorem startsToken_textChars {cs : List Char} (h : Suits style cs) (ht : EndsScalar tail)
    (p : Place) (column : Nat) : StartsToken (textChars style p column cs ++ tail) := by
  cases style with
  | plain => exact startsToken_plainChars h ht p column
  | single => exact startsToken_cons (by decide) (by decide) fun h => absurd h (by decide)
  | double => exact startsToken_cons (by decide) (by decide) fun h => absurd h (by decide)

/-! ### Reading a scalar -/

theorem fetchAt_quote {double : Bool} (h : StartsToken l.cursor.rest)
    (hch : ch = Quoted.closing double) : l.fetchAt ch = l.fetchQuoted double := by
  subst hch
  cases double <;>
    simp [fetchAt, atMark_eq_false h.dashes, atMark_eq_false h.dots, Quoted.closing]

/-- A plain scalar begins with no sign, or with one that has no blank behind it. -/
theorem startsPlain_of (hi : IsInline ch) (hr : l.cursor.rest = ch :: rest)
    (hfirst : ch ∉ "#,[]\x7b\x7d&*!|>'\"%@` \n".toList) (hflow : l.flowDepth = 0)
    (hsign : ch = '-' ∨ ch = '?' ∨ ch = ':' → isBlankOrEnd rest.head? = false) :
    l.startsPlain ch = true := by
  have hblank : isBlankOrEnd (some ch) = false := by
    refine Bool.eq_false_iff.2 fun hb => hfirst ?_
    rw [(isBlankOrEnd_iff hi).1 hb]
    decide
  by_cases hs : ch = '-' ∨ ch = '?' ∨ ch = ':'
  · have hnext : isBlankOrEnd (l.cursor.peekAt 1) = false := by rw [peekAt_one hr, hsign hs]
    rcases hs with rfl | rfl | rfl <;> simp [startsPlain, hnext, inFlow, hflow]
  · have hindicators : ∀ x ∈ "-?:,[]\x7b\x7d#&*!|>'\"%@`".toList,
        x ∈ "#,[]\x7b\x7d&*!|>'\"%@` \n".toList ∨ x = '-' ∨ x = '?' ∨ x = ':' :=
      forall_mem_of_all (by decide)
    have hne : "-?:,[]\x7b\x7d#&*!|>'\"%@`".toList.contains ch = false := by
      rw [List.contains_eq_mem, decide_eq_false_iff_not]
      exact fun hm => (hindicators ch hm).elim hfirst hs
    simp only [startsPlain, hblank, hne]
    rfl

theorem fetchAt_plain (h : StartsToken l.cursor.rest) (hr : l.cursor.rest = ch :: rest)
    (hfirst : ch ∉ "#,[]\x7b\x7d&*!|>'\"%@` \n".toList) (hflow : l.flowDepth = 0)
    (hsign : ch = '-' ∨ ch = '?' ∨ ch = ':' → isBlankOrEnd rest.head? = false) :
    l.fetchAt ch = l.fetchPlain := by
  have hi := (h.head ch (by rw [hr]; rfl)).1
  have hstart := startsPlain_of hi hr hfirst hflow hsign
  have hsigns {s : Char} (hs : ch = s → ch = '-' ∨ ch = '?' ∨ ch = ':') :
      (decide (ch = s) && isBlankOrEnd (l.cursor.peekAt 1)) = false := by
    rw [peekAt_one hr]
    by_cases he : ch = s
    · rw [hsign (hs he), Bool.and_false]
    · rw [decide_eq_false he, Bool.false_and]
  have hdash := hsigns (s := '-') Or.inl
  have hquestion := hsigns (s := '?') fun h => .inr (.inl h)
  have hcolon := hsigns (s := ':') fun h => .inr (.inr h)
  have hflow' : l.inFlow = false := by
    rw [inFlow, hflow]
    rfl
  simp only [String.reduceToList, List.mem_cons, List.not_mem_nil, or_false, not_or] at hfirst
  simp [fetchAt, atMark_eq_false h.dashes, atMark_eq_false h.dots, hstart, hfirst, hdash, hquestion,
    hcolon, hflow']

/-- The possible key that a token at the cursor starts. -/
def possibleKey (c : Cursor) (indent : Int) (queue : List Token) : PossibleKey := {
  tokenNumber := queue.length, required := indent == (c.column : Int), index := c.index,
  line := c.line, column := c.column }

def savedKeys (c : Cursor) (allowed : Bool) (indent : Int) (queue : List Token) :
    List (Nat × PossibleKey) :=
  if allowed then [(0, possibleKey c indent queue)] else []

theorem mem_savedKeys {key : Nat × PossibleKey} (h : key ∈ savedKeys c allowed indent queue) :
    allowed = true ∧ key = (0, possibleKey c indent queue) := by
  unfold savedKeys at h
  split at h
  · exact ⟨‹_›, List.mem_singleton.1 h⟩
  · exact absurd h List.not_mem_nil

theorem saveKey_resting (c : Cursor) (allowed : Bool) (indent : Int) (indents : List Int)
    (queue : List Token) : (resting c allowed [] indent indents queue).saveKey =
      .ok (resting c allowed (savedKeys c allowed indent queue) indent indents queue) := by
  cases allowed with
  | false => rfl
  | true =>
    simp [saveKey, dropKey, resting, savedKeys, possibleKey, inFlow, Lexer.column, pure,
      Except.pure, bind, Except.bind]

theorem fetchQuoted_resting {double : Bool} {cs : List Char} {d : Cursor}
    (h : Quoted.scan double c = .ok (cs, d)) :
    (resting c allowed [] indent indents queue).fetchQuoted double =
      .ok (resting d false (savedKeys c allowed indent queue) indent indents
        (queue ++ [.scalar (String.ofList cs) false])) := by
  rw [fetchQuoted, saveKey_resting, ok_bind]
  change (Quoted.scan double c >>= _) = _
  rw [h, ok_bind]
  rfl

theorem fetchPlain_resting {cs : List Char} {d : Cursor}
    (h : Plain.scan false (indent + 1) c = (cs, d, ended)) :
    (resting c allowed [] indent indents queue).fetchPlain =
      .ok (resting d ended (savedKeys c allowed indent queue) indent indents
        (queue ++ [.scalar (String.ofList cs) true])) := by
  have hfetch {l m : Lexer} (hs : l.saveKey = .ok m)
      (h : Plain.scan m.inFlow (m.indent + 1) m.cursor = (cs, d, ended)) : l.fetchPlain =
        .ok ({ m with keyAllowed := ended, cursor := d }.emit
          (.scalar (String.ofList cs) true)) := by
    rw [fetchPlain, hs, ok_bind, h]
    rfl
  exact hfetch (saveKey_resting c allowed indent indents queue) h

/-- What is written behind a scalar: a plain one ends `k` characters further on, in front of a new
line or on its own. -/
structure Ending (indent : Int) (tail : List Char) (k : Nat) (ended : Bool) : Prop where
  plain : ∀ c : Cursor, c.rest = tail → Plain.Reads (indent + 1) c [] (c.forward k) ended
  sign : EndsScalar tail

theorem dispatch_quoted (double : Bool) {written : List Char}
    (hr : c.rest = Quoted.closing double :: (written ++ Quoted.closing double :: tail))
    (h : Quoted.Reads double c.step text.toList (written.length + 1)) :
    (resting c allowed [] indent indents queue).dispatch =
      .ok (resting (c.forward (written.length + 2)) false (savedKeys c allowed indent queue) indent
        indents (queue ++ [.scalar text false])) := by
  have hstart : StartsToken c.rest := by
    rw [hr]
    cases double <;> exact startsToken_cons (by decide) (by decide) fun h => absurd h (by decide)
  rw [dispatch_eq hr, fetchAt_quote hstart rfl, fetchQuoted_resting (h.scan_eq hr),
    String.ofList_toList]

theorem dispatch_plain {d : Cursor} (h : allowsPlain text.toList = true) (ht : EndsScalar tail)
    (hr : c.rest = plainChars p column false text.toList ++ tail)
    (hscan : Plain.scan false (indent + 1) c = (text.toList, d, ended)) :
    (resting c allowed [] indent indents queue).dispatch =
      .ok (resting d ended (savedKeys c allowed indent queue) indent indents
        (queue ++ [.scalar text true])) := by
  have hstart : StartsToken c.rest := hr ▸ startsToken_plainChars h ht p column
  simp only [allowsPlain, Bool.and_eq_true] at h
  obtain ⟨⟨-, hbegins⟩, -⟩ := h
  cases hcs : text.toList with
  | nil =>
    rw [hcs] at hbegins
    exact Bool.noConfusion hbegins
  | cons ch cs =>
    rw [hcs] at hbegins hr
    obtain ⟨hfirst, hsign, -, -⟩ := Plain.beginsPlain_cons hbegins
    have hs : ch ≠ ' ' := by
      rintro rfl
      exact hfirst (by decide)
    rw [Plain.plainChars_cons_word hs, List.cons_append] at hr
    -- what follows a sign is no blank before it is written, and so is what is written for it
    have hnext (hch : ch = '-' ∨ ch = '?' ∨ ch = ':') :
        isBlankOrEnd (plainChars p (column + 1) false cs ++ tail).head? = false := by
      have hb := hsign hch
      cases cs with
      | nil => exact Bool.noConfusion hb
      | cons y cs =>
        have hy : y ≠ ' ' := by
          rintro rfl
          exact Bool.noConfusion hb
        rw [Plain.plainChars_cons_word hy]
        exact hb
    rw [dispatch_eq hr, fetchAt_plain hstart hr hfirst rfl hnext, fetchPlain_resting hscan,
      String.ofList_toList]

/-- A scalar is read as the text that it was written for. -/
theorem dispatch_textChars (hs : Suits style text.toList) (hp : indent < p.indent)
    (hw : 0 < p.indent ∧ p.indent < width) (he : Ending indent tail k ended)
    (hi : indent ≤ c.column) (hr : c.rest = textChars style p column text.toList ++ tail) :
    (resting c allowed [] indent indents queue).dispatch =
      .ok (resting (c.forward ((textChars style p column text.toList).length +
          if style = .plain then k else 0)) (decide (style = .plain) && ended)
        (savedKeys c allowed indent queue) indent indents
        (queue ++ [.scalar text (style = .plain)])) := by
  cases style with
  | plain =>
    have hscan := Plain.scan_plainChars hw.1 (Int.add_one_le_of_lt hp) he.plain hs
      (Int.add_le_add_right hi 1) hr
    exact dispatch_plain hs he.sign hr hscan
  | single =>
    have h := hs
    simp only [Suits, allowsSingle, Bool.and_eq_true, List.all_eq_true, Bool.not_eq_true'] at h
    have htail : tail.head? ≠ some '\'' := fun h => he.sign _ h (by decide)
    have hwritten : c.rest =
        '\'' :: (singleChars p (column + 1) none text.toList ++ '\'' :: tail) := by
      rw [hr, textChars]
      simp
    have hreads := Quoted.reads_singleChars hw.1 htail text.toList h.1 h.2
      (c := c.step) (by rw [step_rest, hwritten]; rfl)
    rw [dispatch_quoted false hwritten hreads]
    simp [textChars]
  | double =>
    have hwritten : c.rest =
        '"' :: (doubleChars p (column + 1) false true text.toList ++ '"' :: tail) := by
      rw [hr, textChars]
      simp
    have hreads := Quoted.reads_doubleChars hw.1 hw.2 text.toList
      (c := c.step) (by rw [step_rest, hwritten]; rfl)
    rw [dispatch_quoted true hwritten hreads]
    simp [textChars]

theorem reaches_textChars (hs : Suits style text.toList) (hp : indent < p.indent)
    (hw : 0 < p.indent ∧ p.indent < width) (he : Ending indent tail k ended)
    (hi : indent ≤ c.column) (hr : c.rest = textChars style p column text.toList ++ tail) :
    Reaches (resting c allowed [] indent indents queue)
      (resting (c.forward ((textChars style p column text.toList).length +
          if style = .plain then k else 0)) (decide (style = .plain) && ended)
        (savedKeys c allowed indent queue) indent indents
        (queue ++ [.scalar text (style = .plain)])) := by
  have hstart : StartsToken c.rest := hr ▸ startsToken_textChars hs he.sign p column
  refine .step runs_resting_nil (ready_resting_self hstart hi nofun)
    (dispatch_textChars hs hp hw he hi hr) (by simp [resting]) fun key hk => .inr ?_
  rw [(mem_savedKeys hk).2]
  exact Nat.le_refl _

/-! ### Values -/

/-- The end of a line, and behind it a token that is indented by `k` or the end of the text. -/
structure LineEnd (tail : List Char) (k : Nat) (rest : List Char) : Prop where
  eq : tail = '\n' :: (List.replicate k ' ' ++ rest)
  start : StartsToken rest

theorem LineEnd.ending (h : LineEnd tail k rest) (hk : (k : Int) ≤ indent) :
    Ending indent tail (k + 1) true := by
  obtain ⟨rfl, hstart⟩ := h
  refine ⟨fun c hr => ?_, fun x hx => ?_⟩
  · have hstep : c.step.rest = List.replicate k ' ' ++ rest := by rw [step_rest, hr]; rfl
    have hmark : c.step.atDocumentMark = false := by
      cases k with
      | zero =>
        rw [atDocumentMark, atMark_eq_false (hstep ▸ hstart.dashes),
          atMark_eq_false (hstep ▸ hstart.dots)]
        rfl
      | succ k => exact atDocumentMark_eq_false hstep (by decide) (by decide)
    exact Plain.Reads.atLineEnd hr hmark
      (fun x hx => ⟨(hstart.head x hx).2.1, (hstart.head x hx).1.isBreak⟩) (Int.lt_add_one_of_le hk)
  · cases hx
    decide

/-- The lexer gets to the line with the given text behind its indentation. -/
def ReachesLine (l : Lexer) (k : Nat) (rest : List Char) (indent : Int) (indents : List Int)
    (queue : List Token) : Prop :=
  ∃ c : Cursor, c.rest = rest ∧ c.column = k ∧ Reaches l (resting c true [] indent indents queue)

theorem Reaches.line (h : Reaches l m) (h' : ReachesLine m k rest indent indents queue) :
    ReachesLine l k rest indent indents queue := by
  obtain ⟨c, hr, hc, hm⟩ := h'
  exact ⟨c, hr, hc, h.trans hm⟩

/-- A block that is indented more than the line ends there. -/
theorem ReachesLine.close {outer : Int} (h : ReachesLine l k rest indent (outer :: indents) queue)
    (hs : StartsToken rest) (hk : (k : Int) < indent) :
    ReachesLine l k rest outer indents (queue ++ [.blockEnd]) := by
  obtain ⟨c, hr, hc, hl⟩ := h
  exact ⟨c, hr, hc, hl.trans (reaches_blockEnd (hr ▸ hs) (hc ▸ hk))⟩

/-- A scalar that ends its line. -/
theorem reachesLine_textChars (hs : Suits style text.toList) (hp : indent < p.indent)
    (hw : 0 < p.indent ∧ p.indent < width) (he : LineEnd tail k rest) (hk : (k : Int) ≤ indent)
    (hi : indent ≤ c.column) (ha : allowed = true → indent ≠ c.column)
    (hr : c.rest = textChars style p column text.toList ++ tail) :
    ReachesLine (resting c allowed [] indent indents queue) k rest indent indents
      (queue ++ [.scalar text (style = .plain)]) := by
  have hscalar : Reaches (resting c allowed [] indent indents queue) (resting _ _ _ _ _ _) :=
    reaches_textChars hs hp hw (he.ending hk) hi hr
  have hkeys : ∀ key ∈ savedKeys c allowed indent queue,
      key.2.required = false ∧ key.2.line = c.line := by
    intro key hm
    obtain ⟨hallowed, rfl⟩ := mem_savedKeys hm
    exact ⟨beq_false_of_ne (ha hallowed), rfl⟩
  have hbehind : (c.forward (textChars style p column text.toList).length).rest =
      '\n' :: (List.replicate k ' ' ++ rest) := by
    rw [forward_rest_append _ hr, he.eq]
  have hline := forward_line hbehind
  have hbefore := (before_forward (textChars style p column text.toList).length c).line
  refine ⟨_, congrArg Cursor.rest hline, congrArg Cursor.column hline, hscalar.trans ?_⟩
  by_cases hplain : style = .plain
  · rw [if_pos hplain, forward_add, decide_eq_true hplain]
    refine reaches_forget (by rw [hline]; exact he.start) fun key hm => ?_
    obtain ⟨hrequired, hkey⟩ := hkeys key hm
    rw [hline, hkey]
    exact ⟨hrequired, Nat.lt_succ_of_le hbefore⟩
  · rw [if_neg hplain, decide_eq_false hplain, Nat.add_zero]
    refine reaches_line hbehind he.start fun key hm => ?_
    obtain ⟨hrequired, hkey⟩ := hkeys key hm
    exact ⟨hrequired, hkey ▸ hbefore⟩

/-! ### Keys in front of their values -/

theorem ending_colon (hb : isBlankOrEnd rest.head? = true) :
    Ending indent (':' :: rest) 0 false := by
  refine ⟨fun c hr => Plain.Reads.atColon hr hb, fun x hx => ?_⟩
  cases hx
  decide

/-- What a key has to be for its colon to be found. -/
def KeyFits (key : String) : Prop :=
  isSimpleKey key = true → (simpleKeyChars 0 key).length ≤ 1024

instance (key : String) : Decidable (KeyFits key) := inferInstanceAs (Decidable (_ → _))

/-- Short keys fit even if each of their characters has the longest escape. -/
theorem keyFits_of_length_le {key : String} (h : key.length ≤ 102) : KeyFits key := by
  intro _
  have := length_simpleKeyChars_le 0 key
  omega

/-- A key of characters beyond the basic plane counts as short by their number, but is too long with
their escapes. -/
theorem not_keyFits_of_beyond {key : String} (h : ∀ ch ∈ key.toList, 0xFFFF < ch.toNat)
    (hlong : 103 ≤ key.length) (hshort : key.length + tagLength < 128) : ¬ KeyFits key := by
  intro hfits
  have hne : key ≠ "" := by
    rintro rfl
    exact absurd hlong (by decide)
  have hlength := hfits (isSimpleKey_beyond hne h hshort)
  rw [length_simpleKeyChars_beyond hne h] at hlength
  omega

/-- A simple key is read up to its colon. -/
theorem reaches_simpleKey (hw : c.column + 2 < width) (hb : isBlankOrEnd rest.head? = true)
    (hi : indent ≤ c.column) (hr : c.rest = simpleKeyChars c.column text ++ ':' :: rest) :
    Reaches (resting c true [] indent indents queue)
      (resting ⟨':' :: rest, c.index + (simpleKeyChars c.column text).length, c.line,
        c.column + (simpleKeyChars c.column text).length⟩ false
        [(0, possibleKey c indent queue)] indent indents (queue ++ [textToken true text])) := by
  have hp : indent < (c.column + 2 : Nat) := by omega
  have hscalar : Reaches (resting c true [] indent indents queue) (resting _ _ _ _ _ _) :=
    reaches_textChars (suits_styleOf true text) hp ⟨Nat.succ_pos _, hw⟩ (ending_colon hb) hi hr
  have hcolon : forward (simpleKeyChars c.column text).length
      ⟨simpleKeyChars c.column text ++ ':' :: rest, c.index, c.line, c.column⟩ =
        ⟨':' :: rest, c.index + (simpleKeyChars c.column text).length, c.line,
          c.column + (simpleKeyChars c.column text).length⟩ :=
    forward_inline (isInline_simpleKeyChars c.column text)
  have hzero : (if styleOf true text = .plain then 0 else 0) = 0 := ite_self 0
  rw [← hr] at hcolon
  rw [Bool.and_false, hzero, Nat.add_zero] at hscalar
  change Reaches _ (resting (c.forward (simpleKeyChars c.column text).length) _ _ _ _ _) at hscalar
  rwa [hcolon] at hscalar

theorem exists_reaches_simpleKey (hs : isSimpleKey text = true) (hfits : KeyFits text)
    (hw : c.column + 2 < width) (hb : isBlankOrEnd rest.head? = true)
    (ho : Opens .blockMappingStart c.column indent indents queue indents' queue')
    (hr : c.rest = simpleKeyChars c.column text ++ ':' :: rest) :
    ∃ d : Cursor, d.rest = rest ∧ c.column ≤ d.column ∧
      Reaches (resting c true [] indent indents queue)
        (resting d false [] c.column indents' (queue' ++ [.key, textToken true text, .value])) := by
  have hlength := hfits hs
  rw [← simpleKeyChars_eq c.column] at hlength
  refine ⟨_, ?_, ?_, (reaches_simpleKey hw hb ho.le hr).trans
    (reaches_keyColon rfl hb ho rfl rfl ?_ ?_)⟩
  · rw [step_rest]
    rfl
  · rw [step_inline (by decide)]
    dsimp only
    omega
  · dsimp only [possibleKey]
    omega
  · dsimp only [possibleKey]
    omega

end ScenarioCompiler.Yaml.Lexer
