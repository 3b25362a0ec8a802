import ScenarioCompiler.Proofs.Outcome
import ScenarioCompiler.Yaml.Node

namespace ScenarioCompiler.Yaml.Node

/-! ### What the results of a computation have in common -/

/-- Each result of the computation satisfies the condition. -/
def Ensures {ε α : Type} (P : α → Prop) (x : Except ε α) : Prop := ∀ a, x = .ok a → P a

section Ensures

variable {ε α β : Type} {P : α → Prop} {Q : β → Prop} {x : Except ε α} {f : α → Except ε β}

theorem ensures_ok {a : α} (h : P a) : Ensures P (.ok a : Except ε α) := by
  rintro b hb
  cases hb
  exact h

theorem ensures_error (e : ε) : Ensures P (.error e) := nofun

theorem ensures_true (x : Except ε α) : Ensures (fun _ => True) x := fun _ _ => trivial

theorem ensures_ite {y : Except ε α} (c : Prop) [Decidable c] (hx : Ensures P x)
    (hy : Ensures P y) : Ensures P (if c then x else y) := by
  split
  · exact hx
  · exact hy

theorem Ensures.bind (h : Ensures P x) (hf : ∀ a, P a → Ensures Q (f a)) :
    Ensures Q (x >>= f) := by
  intro b hb
  obtain ⟨a, ha, hb⟩ := bind_eq_ok.1 hb
  exact hf a (h a ha) b hb

/-- What comes first does not matter. -/
theorem ensures_bind (hf : ∀ a, Ensures Q (f a)) : Ensures Q (x >>= f) :=
  (ensures_true x).bind fun a _ => hf a

end Ensures

/-! ### Tokens without an end -/

/-- The end of the text is not among the tokens that are still to be read. -/
def Unended (s : Source) : Prop := .streamEnd ∉ s.tokens

/-- What is left behind a node, its items or its entries has no end, either. -/
def Stays {α : Type} (parse : Source → Except Stop (α × Source)) : Prop :=
  ∀ s, Unended s → Ensures (fun r => Unended r.2) (parse s)

variable {s : Source} {fuel : Nat}

theorem Unended.advance (h : Unended s) : Unended s.advance :=
  fun hm => h (List.mem_of_mem_drop hm)

theorem Unended.bind (h : Unended s) (anchor : Option String) (node : Node) :
    Ensures Unended (s.bind anchor node) := by
  unfold Source.bind
  split
  · exact ensures_ok h
  · split
    · exact ensures_error _
    · exact ensures_ok h

theorem Unended.enter (h : Unended s) (anchor : Option String) (isMapping : Bool) :
    Ensures Unended (s.enter anchor isMapping) := by
  unfold Source.enter
  split
  · exact ensures_ok h
  · exact h.bind _ _

theorem Unended.complete (h : Unended s) (anchor : Option String) (node : Node) :
    Unended (s.complete anchor node).2 := by
  unfold Source.complete
  split <;> exact h

theorem Unended.properties (h : Unended s) :
    Ensures (fun r => Unended r.2.2) (properties s) := by
  refine ensures_bind fun token => ?_
  split
  · refine ensures_bind fun token => ?_
    split
    · exact ensures_ok h.advance.advance
    · exact ensures_ok h.advance
  · refine ensures_bind fun token => ?_
    split
    · exact ensures_ok h.advance.advance
    · exact ensures_ok h.advance
  · exact ensures_ok h

/-- A comma stands in front of what follows inside brackets, unless that is the first there. -/
theorem Unended.separated {α : Type} {next : Source → Except Stop (α × Source)} (h : Unended s)
    (hnext : Stays next) (first : Bool) (token : Token) (fault : SyntaxFault) :
    Ensures (fun r => Unended r.2)
      (if first = true then do let s ← pure s; next s
      else if token = .flowEntry then do let s ← pure s.advance; next s
      else do let s ← throw (syntaxStop fault); next s) := by
  split
  · exact hnext s h
  · split
    · exact hnext s.advance h.advance
    · exact ensures_error _

theorem stays_emptyNode (anchor uri : Option String) : Stays (emptyNode anchor uri) := by
  intro s h
  unfold emptyNode
  split
  · exact ensures_error _
  · exact (h.bind _ _).bind fun s h => ensures_ok h

/-- All parsers with some fuel leave tokens without an end. -/
structure AllStay (fuel : Nat) : Prop where
  node : ∀ block indentless, Stays (parseNode fuel block indentless)
  blockItems : Stays (parseBlockItems fuel)
  indentlessItems : Stays (parseIndentlessItems fuel)
  blockPart : Stays (parseBlockPart fuel)
  blockEntries : Stays (parseBlockEntries fuel)
  blockValue : Stays (parseBlockValue fuel)
  flowItems : ∀ first, Stays (parseFlowItems fuel first)
  flowPart : ∀ close isKey, Stays (parseFlowPart fuel close isKey)
  flowValue : ∀ close, Stays (parseFlowValue fuel close)
  flowEntries : ∀ first, Stays (parseFlowEntries fuel first)

theorem allStay_zero : AllStay 0 where
  node _ _ _ _ := by unfold parseNode; exact ensures_error _
  blockItems _ _ := by unfold parseBlockItems; exact ensures_error _
  indentlessItems _ _ := by unfold parseIndentlessItems; exact ensures_error _
  blockPart _ _ := by unfold parseBlockPart; exact ensures_error _
  blockEntries _ _ := by unfold parseBlockEntries; exact ensures_error _
  blockValue _ _ := by unfold parseBlockValue; exact ensures_error _
  flowItems _ _ _ := by unfold parseFlowItems; exact ensures_error _
  flowPart _ _ _ _ := by unfold parseFlowPart; exact ensures_error _
  flowValue _ _ _ := by unfold parseFlowValue; exact ensures_error _
  flowEntries _ _ _ := by unfold parseFlowEntries; exact ensures_error _

/-- A list or a mapping between its start and its end, with its name. -/
theorem Stays.collection {α : Type} {parse : Source → Except Stop (α × Source)}
    (h : Stays parse) (hs : Unended s) (anchor : Option String) (isMapping : Bool)
    (node : α → Node) :
    Ensures (fun r => Unended r.2) (do
      let s ← s.enter anchor isMapping
      let (parts, s) ← parse s
      pure (s.complete anchor (node parts))) :=
  (hs.enter _ _).bind fun s hs => (h s hs).bind fun _ hs => ensures_ok (hs.complete _ _)

/-- One part after the other, until the list of parts ends. -/
theorem Stays.cons {α β γ : Type} {part : Source → Except Stop (α × Source)}
    {parts : Source → Except Stop (β × Source)} (h : Stays part) (h' : Stays parts)
    (hs : Unended s) (f : α → β → γ) :
    Ensures (fun r => Unended r.2) (do
      let (a, s) ← part s
      let (b, s) ← parts s
      pure (f a b, s)) :=
  (h s hs).bind fun r hr => (h' r.2 hr).bind fun _ hr' => ensures_ok hr'

namespace AllStay

variable (h : AllStay fuel)

include h

theorem parseNode (block indentless : Bool) :
    Stays (Node.parseNode (fuel + 1) block indentless) := by
  intro s hs
  unfold Node.parseNode
  refine ensures_bind fun token => ?_
  split
  · split
    · exact ensures_ok hs.advance
    · exact ensures_error _
  · refine hs.properties.bind fun r hr => ensures_bind fun uri => ensures_bind fun token => ?_
    split
    · exact h.indentlessItems.collection hr _ _ _
    · split
      · exact (hr.advance.bind _ _).bind fun s hs => ensures_ok hs
      · exact (h.flowItems true).collection hr.advance _ _ _
      · exact (h.flowEntries true).collection hr.advance _ _ _
      · split
        · exact h.blockItems.collection hr.advance _ _ _
        · exact stays_emptyNode _ _ _ hr
      · split
        · exact h.blockEntries.collection hr.advance _ _ _
        · exact stays_emptyNode _ _ _ hr
      · exact stays_emptyNode _ _ _ hr

theorem parseBlockItems : Stays (Node.parseBlockItems (fuel + 1)) := by
  intro s hs
  unfold Node.parseBlockItems
  refine ensures_bind fun token => ?_
  split
  · refine ensures_bind fun next => ?_
    split
    · exact (h.blockItems _ hs.advance).bind fun _ hr => ensures_ok hr
    · exact (h.node true false).cons h.blockItems hs.advance _
  · exact ensures_ok hs.advance
  · exact ensures_error _

theorem parseIndentlessItems : Stays (Node.parseIndentlessItems (fuel + 1)) := by
  intro s hs
  unfold Node.parseIndentlessItems
  refine ensures_bind fun token => ?_
  split
  · refine ensures_bind fun next => ?_
    split
    · exact (h.indentlessItems _ hs.advance).bind fun _ hr => ensures_ok hr
    · exact (h.node true false).cons h.indentlessItems hs.advance _
  · exact ensures_ok hs

theorem parseBlockPart : Stays (Node.parseBlockPart (fuel + 1)) := by
  intro s hs
  unfold Node.parseBlockPart
  refine ensures_bind fun next => ?_
  split
  · exact ensures_ok hs
  · exact h.node true true s hs

theorem parseBlockEntries : Stays (Node.parseBlockEntries (fuel + 1)) := by
  intro s hs
  unfold Node.parseBlockEntries
  refine ensures_bind fun token => ?_
  split
  · refine (h.blockPart _ hs.advance).bind ?_
    rintro ⟨key, s⟩ hr
    exact h.blockValue.cons h.blockEntries hr fun value entries => (key, value) :: entries
  · exact ensures_ok hs.advance
  · exact ensures_error _

theorem parseBlockValue : Stays (Node.parseBlockValue (fuel + 1)) := by
  intro s hs
  unfold Node.parseBlockValue
  refine ensures_bind fun token => ?_
  split
  · exact h.blockPart _ hs.advance
  · exact ensures_ok hs

theorem parseFlowItems (first : Bool) : Stays (Node.parseFlowItems (fuel + 1) first) := by
  intro s hs
  unfold Node.parseFlowItems
  refine ensures_bind fun token => ?_
  split
  · exact ensures_ok hs.advance
  · refine ensures_bind fun token => hs.separated (fun s hs => ensures_bind fun token => ?_) _ _ _
    split
    · refine (h.flowPart _ true _ hs.advance).bind ?_
      rintro ⟨key, s⟩ hr
      exact (h.flowValue _).cons (h.flowItems false) hr
        fun value items => .mapping .map [(key, value)] :: items
    · exact ensures_ok hs.advance
    · exact (h.node false false).cons (h.flowItems false) hs _

theorem parseFlowPart (close : Token) (isKey : Bool) :
    Stays (Node.parseFlowPart (fuel + 1) close isKey) := by
  intro s hs
  unfold Node.parseFlowPart
  refine ensures_bind fun next => ?_
  split
  · exact ensures_ok hs
  · exact h.node false false s hs

theorem parseFlowValue (close : Token) : Stays (Node.parseFlowValue (fuel + 1) close) := by
  intro s hs
  unfold Node.parseFlowValue
  refine ensures_bind fun token => ?_
  split
  · exact h.flowPart close false _ hs.advance
  · exact ensures_ok hs

theorem parseFlowEntries (first : Bool) : Stays (Node.parseFlowEntries (fuel + 1) first) := by
  intro s hs
  unfold Node.parseFlowEntries
  refine ensures_bind fun token => ?_
  split
  · exact ensures_ok hs.advance
  · refine ensures_bind fun token => hs.separated (fun s hs => ensures_bind fun token => ?_) _ _ _
    split
    · refine (h.flowPart _ true _ hs.advance).bind ?_
      rintro ⟨key, s⟩ hr
      exact (h.flowValue _).cons (h.flowEntries false) hr
        fun value entries => (key, value) :: entries
    · exact ensures_ok hs.advance
    · exact (h.node false false).cons (h.flowEntries false) hs
        fun key entries => (key, .empty) :: entries

theorem succ : AllStay (fuel + 1) :=
  ⟨h.parseNode, h.parseBlockItems, h.parseIndentlessItems, h.parseBlockPart, h.parseBlockEntries,
    h.parseBlockValue, h.parseFlowItems, h.parseFlowPart, h.parseFlowValue, h.parseFlowEntries⟩

end AllStay

theorem allStay : ∀ fuel : Nat, AllStay fuel
  | 0 => allStay_zero
  | fuel + 1 => (allStay fuel).succ

/-! ### Documents without an end -/

variable {tokens : List Token}

theorem ensures_parseDirectives (h : .streamEnd ∉ tokens) (version : Bool)
    (handles : List (String × String)) :
    Ensures (fun r => .streamEnd ∉ r.2) (parseDirectives tokens version handles) := by
  fun_induction parseDirectives tokens version handles with
  | case1 => exact ensures_error _
  | case2 => exact ensures_error _
  | case3 _ _ _ _ _ _ ih => exact ih fun hm => h (List.mem_cons_of_mem _ hm)
  | case4 => exact ensures_error _
  | case5 _ _ _ _ _ _ ih => exact ih fun hm => h (List.mem_cons_of_mem _ hm)
  | case6 _ _ _ ih => exact ih fun hm => h (List.mem_cons_of_mem _ hm)
  | case7 => exact ensures_error _
  | case8 => exact ensures_ok h

theorem ensures_parseDocumentStart (h : .streamEnd ∉ tokens) :
    Ensures (fun r => .streamEnd ∉ r.2) (parseDocumentStart tokens) := by
  refine (ensures_parseDirectives h false []).bind ?_
  rintro ⟨handles, rest⟩ hr
  dsimp only
  split
  · exact ensures_ok fun hm => hr (List.mem_cons_of_mem _ hm)
  · exact ensures_error _

theorem parseEnd_ne_ok (h : .streamEnd ∉ tokens) (a : Unit) : parseEnd tokens ≠ .ok a := by
  have hrest : .streamEnd ∉ tokens.dropWhile (· == .documentEnd) :=
    fun hm => h ((List.dropWhile_sublist _).subset hm)
  unfold parseEnd
  dsimp only
  split
  · exact nofun
  · rename_i heq
    rw [heq] at hrest
    exact absurd List.mem_cons_self hrest
  · intro hok
    obtain ⟨_, -, hok⟩ := bind_eq_ok.1 hok
    cases hok

/-- Behind its node the document has to end. -/
theorem Unended.fails (h : Unended s) (node : Node) :
    Ensures (fun _ => False) (do let _ ← s.peek; parseEnd s.tokens; pure (some node)) :=
  ensures_bind fun _ => Ensures.bind (parseEnd_ne_ok h) fun _ => False.elim

/-- The node of the document starts with the first token or behind the mark for its start. -/
theorem parse_ne_ok (h : .streamEnd ∉ tokens) (tree : Option Node) : parse tokens ≠ .ok tree := by
  suffices Ensures (fun _ => False) (parse tokens) from this tree
  unfold parse
  dsimp only
  split
  · exact ensures_error _
  · exact absurd List.mem_cons_self h
  · refine ensures_ite _ ?_ ?_
    · refine (ensures_parseDocumentStart h).bind fun r hr => ?_
      split
      · exact ensures_error _
      iterate 4 exact Unended.fails (s := ⟨r.2, r.1, []⟩) hr _
      · exact ((allStay _).node true false ⟨r.2, r.1, []⟩ hr).bind fun _ hr => hr.fails _
    · exact ((allStay _).node true false ⟨_, defaultHandles, []⟩ h).bind fun _ hr => hr.fails _

end ScenarioCompiler.Yaml.Node
