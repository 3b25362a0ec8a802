import ScenarioCompiler.Proofs.Json.RoundTrip
import ScenarioCompiler.Proofs.Yaml.Numbers

namespace ScenarioCompiler.Yaml

open Writer

/-! ### Trees of values -/

def spellingTag : Json → Tag
  | .null => .null
  | .bool _ => .bool
  | .int _ => .int
  | .float _ | .str _ | .arr _ | .obj _ => .str

mutual

/-- The tree of a value. -/
def treeOf : Json → Node
  | .arr items => .sequence .seq (itemTrees items)
  | .obj fields => .mapping .map (fieldTrees fields)
  | value => .scalar (spellingTag value) (spelling value)

def itemTrees : List Json → List Node
  | [] => []
  | item :: rest => treeOf item :: itemTrees rest

def fieldTrees : List (String × Json) → List (Node × Node)
  | [] => []
  | (key, value) :: rest => (.scalar .str key, treeOf value) :: fieldTrees rest

end

variable {value : Json} {items : List Json} {fields : List (String × Json)} {token : Token}
  {rest : List Token}

theorem treeOf_scalar (h : IsScalar value) :
    treeOf value = .scalar (spellingTag value) (spelling value) := by
  match value with
  | .null | .bool _ | .int _ | .str _ => rfl

namespace Node

/-- A text is typed as a text, since it is plain only if its spelling is no other value. -/
theorem scalarTag_text (isKey : Bool) (text : String) :
    scalarTag none (styleOf isKey text = .plain) text = .str := by
  rw [scalarTag]
  split
  · rename_i h
    exact ofPlain_of_styleOf (of_decide_eq_true h)
  · rfl

theorem scalarTag_spelling (h : IsScalar value) :
    scalarTag none (spellingStyle value = .plain) (spelling value) = spellingTag value := by
  cases value with
  | null => decide
  | bool b => cases b <;> decide
  | int n => exact ofPlain_int n
  | str text => exact scalarTag_text false text
  | float _ | arr _ | obj _ => exact h.elim

/-! ### One node -/

/-- What a node can begin with, as opposed to what separates nodes. -/
def StartsNode (token : Token) : Prop := token ∉ [.blockEntry, .key, .value, .blockEnd]

theorem exists_cons_nodeTokens (value : Json) : ∃ token more,
    nodeTokens false value = token :: more ∧ StartsNode token := by
  cases value with
  | null | bool _ | int _ | float _ | str _ => exact ⟨_, _, rfl, by simp [StartsNode, scalarToken]⟩
  | arr items =>
    rw [nodeTokens]
    split <;> exact ⟨_, _, rfl, by simp [StartsNode]⟩
  | obj fields =>
    rw [nodeTokens]
    split <;> exact ⟨_, _, rfl, by simp [StartsNode]⟩

/-- A list at the indentation of its key begins with its first dash. -/
theorem exists_cons_partTokens (indentless : Bool) (value : Json) : ∃ token more,
    nodeTokens indentless value = token :: more ∧ token ∉ [.key, .value, .blockEnd] := by
  have hblock : ∃ token more, nodeTokens false value = token :: more ∧
      token ∉ [.key, .value, .blockEnd] := by
    obtain ⟨token, more, hv, ht⟩ := exists_cons_nodeTokens value
    exact ⟨token, more, hv, fun hm => ht (List.mem_cons_of_mem _ hm)⟩
  cases indentless with
  | false => exact hblock
  | true =>
    cases value with
    | arr items =>
      cases items with
      | nil => exact hblock
      | cons item items => exact ⟨_, _, rfl, by decide⟩
    | _ => exact hblock

variable {handles : List (String × String)} {anchors : List (String × Node)} {fuel : Nat}
  {block indentless : Bool} {s s' : Source} {node : Node} {nodes : List Node}
  {entries : List (Node × Node)}

theorem parseNode_scalar (text : String) (plain : Bool) :
    parseNode (fuel + 1) block indentless ⟨.scalar text plain :: rest, handles, anchors⟩ =
      .ok (.scalar (scalarTag none plain text) text, ⟨rest, handles, anchors⟩) := by
  cases indentless <;> rfl

theorem parseNode_emptySequence :
    parseNode (fuel + 2) block indentless
      ⟨.flowSequenceStart :: .flowSequenceEnd :: rest, handles, anchors⟩ =
      .ok (.sequence .seq [], ⟨rest, handles, anchors⟩) := by
  cases indentless <;> rfl

theorem parseNode_emptyMapping :
    parseNode (fuel + 2) block indentless
      ⟨.flowMappingStart :: .flowMappingEnd :: rest, handles, anchors⟩ =
      .ok (.mapping .map [], ⟨rest, handles, anchors⟩) := by
  cases indentless <;> rfl

theorem parseNode_sequence
    (h : parseBlockItems fuel ⟨rest, handles, anchors⟩ = .ok (nodes, s)) :
    parseNode (fuel + 1) true indentless ⟨.blockSequenceStart :: rest, handles, anchors⟩ =
      .ok (.sequence .seq nodes, s) := by
  have hb : parseNode (fuel + 1) true indentless ⟨.blockSequenceStart :: rest, handles, anchors⟩ =
      (parseBlockItems fuel ⟨rest, handles, anchors⟩).bind fun r =>
        .ok (.sequence .seq r.1, r.2) := by
    cases indentless <;> rfl
  rw [hb, h]
  rfl

theorem parseNode_mapping
    (h : parseBlockEntries fuel ⟨rest, handles, anchors⟩ = .ok (entries, s)) :
    parseNode (fuel + 1) true indentless ⟨.blockMappingStart :: rest, handles, anchors⟩ =
      .ok (.mapping .map entries, s) := by
  have hb : parseNode (fuel + 1) true indentless ⟨.blockMappingStart :: rest, handles, anchors⟩ =
      (parseBlockEntries fuel ⟨rest, handles, anchors⟩).bind fun r =>
        .ok (.mapping .map r.1, r.2) := by
    cases indentless <;> rfl
  rw [hb, h]
  rfl

theorem parseNode_indentless
    (h : parseIndentlessItems fuel ⟨.blockEntry :: rest, handles, anchors⟩ = .ok (nodes, s)) :
    parseNode (fuel + 1) block true ⟨.blockEntry :: rest, handles, anchors⟩ =
      .ok (.sequence .seq nodes, s) := by
  have hb : parseNode (fuel + 1) block true ⟨.blockEntry :: rest, handles, anchors⟩ =
      (parseIndentlessItems fuel ⟨.blockEntry :: rest, handles, anchors⟩).bind fun r =>
        .ok (.sequence .seq r.1, r.2) := rfl
  rw [hb, h]
  rfl

/-! ### Items and entries -/

theorem parseBlockItems_cons (ht : StartsNode token)
    (h : parseNode fuel true false ⟨token :: rest, handles, anchors⟩ = .ok (node, s))
    (h' : parseBlockItems fuel s = .ok (nodes, s')) :
    parseBlockItems (fuel + 1) ⟨.blockEntry :: token :: rest, handles, anchors⟩ =
      .ok (node :: nodes, s') := by
  simp only [StartsNode, List.mem_cons, List.not_mem_nil, or_false, not_or] at ht
  have hb : parseBlockItems (fuel + 1) ⟨.blockEntry :: token :: rest, handles, anchors⟩ =
      (parseNode fuel true false ⟨token :: rest, handles, anchors⟩).bind fun r =>
        (parseBlockItems fuel r.2).bind fun q => .ok (r.1 :: q.1, q.2) := by
    have hn : ¬ (token = .blockEntry || token = .blockEnd) = true := by simp [ht]
    rw [parseBlockItems]
    simp only [Source.peek, Source.advance, List.drop_one, List.tail_cons, pure_bind, if_neg hn]
    rfl
  rw [hb, h]
  change (parseBlockItems fuel s).bind _ = _
  rw [h']
  rfl

theorem parseIndentlessItems_cons (ht : StartsNode token)
    (h : parseNode fuel true false ⟨token :: rest, handles, anchors⟩ = .ok (node, s))
    (h' : parseIndentlessItems fuel s = .ok (nodes, s')) :
    parseIndentlessItems (fuel + 1) ⟨.blockEntry :: token :: rest, handles, anchors⟩ =
      .ok (node :: nodes, s') := by
  simp only [StartsNode, List.mem_cons, List.not_mem_nil, or_false, not_or] at ht
  have hb : parseIndentlessItems (fuel + 1) ⟨.blockEntry :: token :: rest, handles, anchors⟩ =
      (parseNode fuel true false ⟨token :: rest, handles, anchors⟩).bind fun r =>
        (parseIndentlessItems fuel r.2).bind fun q => .ok (r.1 :: q.1, q.2) := by
    have hn : ¬ (token = .blockEntry || token = .key || token = .value || token = .blockEnd) =
        true := by
      simp [ht]
    rw [parseIndentlessItems]
    simp only [Source.peek, Source.advance, List.drop_one, List.tail_cons, pure_bind, if_neg hn]
    rfl
  rw [hb, h]
  change (parseIndentlessItems fuel s).bind _ = _
  rw [h']
  rfl

theorem parseIndentlessItems_nil (h : token ≠ .blockEntry) :
    parseIndentlessItems (fuel + 1) ⟨token :: rest, handles, anchors⟩ =
      .ok ([], ⟨token :: rest, handles, anchors⟩) := by
  cases token with
  | blockEntry => exact absurd rfl h
  | _ => rfl

theorem parseBlockPart_of_ne (h : token ∉ [.key, .value, .blockEnd]) :
    parseBlockPart (fuel + 1) ⟨token :: rest, handles, anchors⟩ =
      parseNode fuel true true ⟨token :: rest, handles, anchors⟩ := by
  simp only [List.mem_cons, List.not_mem_nil, or_false, not_or] at h
  have hb : parseBlockPart (fuel + 1) ⟨token :: rest, handles, anchors⟩ =
      if token = .key || token = .value || token = .blockEnd then
        pure (Node.empty, ⟨token :: rest, handles, anchors⟩)
      else parseNode fuel true true ⟨token :: rest, handles, anchors⟩ := rfl
  rw [hb, if_neg (by simp [h])]

/-- An entry whose key is a text. -/
theorem parseBlockEntries_cons {isKey : Bool} {key : String}
    (ht : token ∉ [.key, .value, .blockEnd])
    (h : parseNode fuel true true ⟨token :: rest, handles, anchors⟩ = .ok (node, s))
    (h' : parseBlockEntries (fuel + 2) s = .ok (entries, s')) :
    parseBlockEntries (fuel + 3)
      ⟨.key :: textToken isKey key :: .value :: token :: rest, handles, anchors⟩ =
      .ok ((.scalar .str key, node) :: entries, s') := by
  have hb : parseBlockEntries (fuel + 3)
      ⟨.key :: textToken isKey key :: .value :: token :: rest, handles, anchors⟩ =
      (parseBlockPart (fuel + 1) ⟨token :: rest, handles, anchors⟩).bind fun r =>
        (parseBlockEntries (fuel + 2) r.2).bind fun q =>
          .ok ((.scalar (scalarTag none (styleOf isKey key = .plain) key) key, r.1) :: q.1, q.2) :=
    rfl
  rw [hb, parseBlockPart_of_ne ht, h, scalarTag_text]
  change (parseBlockEntries (fuel + 2) s).bind _ = _
  rw [h']
  rfl

/-! ### Whole values -/

/-- A list without an end of its own ends in front of any token but a dash. -/
def EndsItems (rest : List Token) : Prop := ∃ token more, rest = token :: more ∧ token ≠ .blockEntry

theorem endsItems_fieldsTokens (fields : List (String × Json)) (rest : List Token) :
    EndsItems (fieldsTokens fields ++ .blockEnd :: rest) := by
  cases fields <;> exact ⟨_, _, rfl, by decide⟩

theorem parseNode_of_isScalar {v : Json} (hs : IsScalar v) (own : Bool)
    (hf : 2 * (nodeTokens own v).length + 2 ≤ fuel) :
    parseNode fuel block indentless ⟨nodeTokens own v ++ rest, handles, anchors⟩ =
      .ok (treeOf v, ⟨rest, handles, anchors⟩) := by
  obtain ⟨fuel, rfl⟩ := Nat.exists_eq_succ_of_ne_zero (Nat.ne_zero_of_lt hf)
  rw [nodeTokens_scalar hs, treeOf_scalar hs, ← scalarTag_spelling hs]
  exact parseNode_scalar (spelling v) (spellingStyle v = .plain)

mutual

/-- The tree of the tokens of a value; the fuel counts the calls of the parser. -/
theorem parseNode_nodeTokens : ∀ (value : Json), value.Plain →
    ∀ (own indentless : Bool) (rest : List Token) {fuel : Nat},
      2 * (nodeTokens own value).length + 2 ≤ fuel →
      (own = true → indentless = true ∧ EndsItems rest) →
      parseNode fuel true indentless ⟨nodeTokens own value ++ rest, handles, anchors⟩ =
        .ok (treeOf value, ⟨rest, handles, anchors⟩)
  | .null, _, own, _, _, _, hf, _ => parseNode_of_isScalar (v := .null) trivial own hf
  | .bool b, _, own, _, _, _, hf, _ => parseNode_of_isScalar (v := .bool b) trivial own hf
  | .int n, _, own, _, _, _, hf, _ => parseNode_of_isScalar (v := .int n) trivial own hf
  | .str text, _, own, _, _, _, hf, _ => parseNode_of_isScalar (v := .str text) trivial own hf
  | .float _, h, _, _, _, _, _, _ => h.elim
  | .arr [], h, own, indentless, rest, fuel, hf, hown => by
    obtain ⟨fuel, rfl⟩ := Nat.exists_eq_add_of_le' (show 2 ≤ fuel by omega)
    exact parseNode_emptySequence
  | .arr (item :: items), h, own, indentless, rest, fuel, hf, hown => by
    obtain ⟨fuel, rfl⟩ := Nat.exists_eq_succ_of_ne_zero (Nat.ne_zero_of_lt hf)
    cases own with
    | true =>
      obtain ⟨rfl, he⟩ := hown rfl
      have hlength : 2 * (itemsTokens (item :: items)).length + 2 ≤ fuel + 1 := hf
      exact parseNode_indentless
        (parseIndentlessItems_itemsTokens (item :: items) h rest (by omega) he)
    | false =>
      rw [nodeTokens_arr (List.cons_ne_nil _ _), if_neg Bool.false_ne_true] at hf ⊢
      rw [List.length_append, List.length_cons, List.length_singleton] at hf
      rw [List.append_assoc]
      exact parseNode_sequence (parseBlockItems_itemsTokens (item :: items) h rest (by omega))
  | .obj [], h, own, indentless, rest, fuel, hf, hown => by
    obtain ⟨fuel, rfl⟩ := Nat.exists_eq_add_of_le' (show 2 ≤ fuel by omega)
    exact parseNode_emptyMapping
  | .obj (field :: fields), h, own, indentless, rest, fuel, hf, hown => by
    obtain ⟨fuel, rfl⟩ := Nat.exists_eq_succ_of_ne_zero (Nat.ne_zero_of_lt hf)
    rw [nodeTokens_obj (List.cons_ne_nil _ _)] at hf ⊢
    rw [List.length_append, List.length_cons, List.length_singleton] at hf
    rw [List.append_assoc]
    exact parseNode_mapping (parseBlockEntries_fieldsTokens (field :: fields) h.2 rest (by omega))

theorem parseBlockItems_itemsTokens : ∀ (items : List Json), Json.PlainItems items →
    ∀ (rest : List Token) {fuel : Nat}, 2 * (itemsTokens items).length + 1 ≤ fuel →
      parseBlockItems fuel ⟨itemsTokens items ++ .blockEnd :: rest, handles, anchors⟩ =
        .ok (itemTrees items, ⟨rest, handles, anchors⟩)
  | [], _, rest, fuel, hf => by
    obtain ⟨fuel, rfl⟩ := Nat.exists_eq_succ_of_ne_zero (Nat.ne_zero_of_lt hf)
    rfl
  | item :: items, h, rest, fuel, hf => by
    obtain ⟨fuel, rfl⟩ := Nat.exists_eq_succ_of_ne_zero (Nat.ne_zero_of_lt hf)
    obtain ⟨token, more, hv, ht⟩ := exists_cons_nodeTokens item
    simp only [itemsTokens, List.length_cons, List.length_append] at hf
    have hitem := parseNode_nodeTokens item h.1 false false
      (itemsTokens items ++ .blockEnd :: rest) (show _ ≤ fuel by omega) nofun
    have hrest := parseBlockItems_itemsTokens items h.2 rest (show _ ≤ fuel by omega)
    rw [hv] at hitem
    simpa [itemsTokens, itemTrees, hv] using parseBlockItems_cons ht hitem hrest

theorem parseIndentlessItems_itemsTokens : ∀ (items : List Json), Json.PlainItems items →
    ∀ (rest : List Token) {fuel : Nat}, 2 * (itemsTokens items).length + 1 ≤ fuel →
      EndsItems rest →
      parseIndentlessItems fuel ⟨itemsTokens items ++ rest, handles, anchors⟩ =
        .ok (itemTrees items, ⟨rest, handles, anchors⟩)
  | [], _, rest, fuel, hf, he => by
    obtain ⟨fuel, rfl⟩ := Nat.exists_eq_succ_of_ne_zero (Nat.ne_zero_of_lt hf)
    obtain ⟨token, more, rfl, ht⟩ := he
    exact parseIndentlessItems_nil ht
  | item :: items, h, rest, fuel, hf, he => by
    obtain ⟨fuel, rfl⟩ := Nat.exists_eq_succ_of_ne_zero (Nat.ne_zero_of_lt hf)
    obtain ⟨token, more, hv, ht⟩ := exists_cons_nodeTokens item
    simp only [itemsTokens, List.length_cons, List.length_append] at hf
    have hitem := parseNode_nodeTokens item h.1 false false
      (itemsTokens items ++ rest) (show _ ≤ fuel by omega) nofun
    have hrest := parseIndentlessItems_itemsTokens items h.2 rest (show _ ≤ fuel by omega) he
    rw [hv] at hitem
    simpa [itemsTokens, itemTrees, hv] using parseIndentlessItems_cons ht hitem hrest

theorem parseBlockEntries_fieldsTokens : ∀ (fields : List (String × Json)),
    Json.PlainFields fields →
    ∀ (rest : List Token) {fuel : Nat}, 2 * (fieldsTokens fields).length + 1 ≤ fuel →
      parseBlockEntries fuel ⟨fieldsTokens fields ++ .blockEnd :: rest, handles, anchors⟩ =
        .ok (fieldTrees fields, ⟨rest, handles, anchors⟩)
  | [], _, rest, fuel, hf => by
    obtain ⟨fuel, rfl⟩ := Nat.exists_eq_succ_of_ne_zero (Nat.ne_zero_of_lt hf)
    rfl
  | (key, value) :: fields, h, rest, fuel, hf => by
    simp only [fieldsTokens, List.length_cons, List.length_append] at hf
    obtain ⟨fuel, rfl⟩ := Nat.exists_eq_add_of_le' (show 3 ≤ fuel by omega)
    obtain ⟨token, more, hv, ht⟩ := exists_cons_partTokens (isSimpleKey key) value
    have hvalue := parseNode_nodeTokens value h.1 (isSimpleKey key) true
      (fieldsTokens fields ++ .blockEnd :: rest) (show _ ≤ fuel by omega)
      fun _ => ⟨rfl, endsItems_fieldsTokens fields rest⟩
    have hrest := parseBlockEntries_fieldsTokens fields h.2 rest
      (show _ ≤ fuel + 2 by omega)
    rw [hv] at hvalue
    simpa [fieldsTokens, fieldTrees, hv] using parseBlockEntries_cons ht hvalue hrest

end

/-- The tree of a document that is a mapping. -/
theorem parse_nodeTokens (hn : fields ≠ []) (h : (Json.obj fields).Plain) :
    parse (nodeTokens false (.obj fields) ++ [.streamEnd]) = .ok (some (treeOf (.obj fields))) := by
  obtain ⟨more, hm⟩ : ∃ more, nodeTokens false (.obj fields) ++ [.streamEnd] =
      .blockMappingStart :: more := by
    cases fields with
    | nil => exact absurd rfl hn
    | cons field fields => exact ⟨_, rfl⟩
  have hp : parse (.blockMappingStart :: more) =
      (parseNode (2 * (.blockMappingStart :: more : List Token).length + 4) true false
        ⟨.blockMappingStart :: more, defaultHandles, []⟩).bind fun r =>
          r.2.peek.bind fun _ => (parseEnd r.2.tokens).bind fun _ => .ok (some r.1) := rfl
  rw [hm, hp, ← hm, parseNode_nodeTokens _ h false false [.streamEnd] (by simp; omega) nofun]
  rfl

end Node

end ScenarioCompiler.Yaml
