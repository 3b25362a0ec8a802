import ScenarioCompiler.Proofs.Yaml.LongKeys
import ScenarioCompiler.Proofs.Yaml.Unended
import ScenarioCompiler.Proofs.Yaml.Values

namespace ScenarioCompiler.Yaml

open Writer Lexer

variable {value : Json} {fields : List (String × Json)} {depth : Nat}

/-! ### The characters of a document -/

theorem onLines_break (isFirst : Bool) (indent : Nat) :
    ∀ x ∈ (if isFirst then [] else newLine indent), OnLines true x := by
  cases isFirst with
  | true => exact fun _ hx => absurd hx List.not_mem_nil
  | false => exact fun _ hx => onLines_newLine (p := ⟨indent, true⟩) rfl hx

theorem onLines_scalarChars (hs : IsScalar value) (indent column : Nat) :
    ∀ x ∈ scalarChars indent column value, OnLines true x := by
  rw [scalarChars_eq hs]
  exact onLines_textChars (suits_spelling hs) (fun _ => rfl) (fun _ _ => rfl) column

theorem onLines_simpleKeyChars (indent : Nat) (key : String) :
    ∀ x ∈ simpleKeyChars indent key, OnLines true x :=
  fun x hx => .inl (isInline_simpleKeyChars indent key x hx)

mutual

theorem onLines_valueChars : ∀ value : Json, value.Plain → ∀ indent column : Nat,
    ∀ x ∈ valueChars indent column value, OnLines true x
  | .null, _, i, c | .bool _, _, i, c | .int _, _, i, c | .str _, _, i, c => by
    rw [valueChars_scalar (by trivial), List.forall_mem_cons]
    exact ⟨by decide, onLines_scalarChars (by trivial) _ _⟩
  | .float _, h, _, _ => h.elim
  | .arr items, h, i, c => by
    rw [valueChars]
    split
    · exact forall_mem_of_all (by decide)
    · exact List.forall_mem_append.2 ⟨onLines_break false i, onLines_itemsChars items h i true⟩
  | .obj fields, h, i, c => by
    rw [valueChars]
    split
    · exact forall_mem_of_all (by decide)
    · exact List.forall_mem_append.2
        ⟨onLines_break false (i + 2), onLines_fieldsChars fields h.2 (i + 2) true⟩

theorem onLines_nestedChars : ∀ value : Json, value.Plain → ∀ indent : Nat,
    ∀ x ∈ nestedChars indent value, OnLines true x
  | .null, _, i | .bool _, _, i | .int _, _, i | .str _, _, i => by
    rw [nestedChars_scalar (by trivial)]
    exact onLines_scalarChars (by trivial) _ _
  | .float _, h, _ => h.elim
  | .arr items, h, i => by
    rw [nestedChars]
    split
    · exact forall_mem_of_all (by decide)
    · exact onLines_itemsChars items h (i + 2) true
  | .obj fields, h, i => by
    rw [nestedChars]
    split
    · exact forall_mem_of_all (by decide)
    · exact onLines_fieldsChars fields h.2 (i + 2) true

theorem onLines_itemsChars : ∀ items : List Json, Json.PlainItems items →
    ∀ (indent : Nat) (isFirst : Bool), ∀ x ∈ itemsChars indent isFirst items, OnLines true x
  | [], _, _, _ => fun _ hx => absurd hx List.not_mem_nil
  | item :: rest, h, i, isFirst => by
    rw [itemsChars]
    simp only [List.forall_mem_append, List.forall_mem_cons]
    exact ⟨⟨onLines_break isFirst i, by decide, by decide, onLines_nestedChars item h.1 i⟩,
      onLines_itemsChars rest h.2 i false⟩

theorem onLines_fieldsChars : ∀ fields : List (String × Json), Json.PlainFields fields →
    ∀ (indent : Nat) (isFirst : Bool), ∀ x ∈ fieldsChars indent isFirst fields, OnLines true x
  | [], _, _, _ => fun _ hx => absurd hx List.not_mem_nil
  | (key, value) :: rest, h, i, isFirst => by
    rw [fieldsChars]
    cases isSimpleKey key with
    | true =>
      simp only [if_true, List.forall_mem_append, List.forall_mem_cons]
      exact ⟨⟨onLines_break isFirst i, onLines_simpleKeyChars i key, by decide,
        onLines_valueChars value h.1 _ _⟩, onLines_fieldsChars rest h.2 i false⟩
    | false =>
      simp only [Bool.false_eq_true, if_false, List.forall_mem_append, List.forall_mem_cons]
      exact ⟨⟨onLines_break isFirst i,
        ⟨⟨by decide, by decide, onLines_scalarChars (show IsScalar (.str key) from trivial) _ _⟩,
          onLines_break false i⟩, by decide, by decide, onLines_nestedChars value h.1 i⟩,
        onLines_fieldsChars rest h.2 i false⟩

end

theorem isReadable_fieldsChars (h : (Json.obj fields).Plain) :
    ∀ x ∈ fieldsChars 0 true fields ++ ['\n'], isReadable x = true := by
  refine List.forall_mem_append.2 ⟨fun x hx => ?_, forall_mem_of_all (by decide)⟩
  exact (onLines_fieldsChars fields h.2 0 true x hx).isReadable

/-! ### Reading what was written -/

theorem documentChars_obj (hn : fields ≠ []) :
    documentChars (.obj fields) = fieldsChars 0 true fields ++ ['\n'] := by
  cases fields with
  | nil => exact absurd rfl hn
  | cons field fields => rfl

/-- The reader gets from the characters of a mapping to its tree. -/
theorem read_write_eq (hn : fields ≠ []) (hp : (Json.obj fields).Plain) :
    read (write (.obj fields)) = (do
      match ← readTree (fieldsChars 0 true fields ++ ['\n']) with
      | some tree => tree.construct
      | none => pure .null) := by
  have hfind : (fieldsChars 0 true fields ++ ['\n']).find? (!isReadable ·) = none :=
    List.find?_eq_none.2 fun x hx => by simp [isReadable_fieldsChars hp x hx]
  rw [read, write, documentChars_obj hn, String.toList_ofList]
  split
  · rename_i c hc
    cases hfind.symm.trans hc
  · rfl

/-- A mapping is read back as it was written if no name is too long for its place in front of the
value and the indentation leaves room on the line. -/
theorem read_write (hn : fields ≠ []) (h : (Json.obj fields).Keyed KeyFits (depth + 1))
    (hw : 2 * depth + 2 < width) :
    read (write (.obj fields)) = .ok (Datum.ofJson (.obj fields)) := by
  have htree : readTree (fieldsChars 0 true fields ++ ['\n']) =
      .ok (some (treeOf (.obj fields))) := by
    unfold readTree
    rw [tokens_fieldsChars hn h hw]
    simp only [Node.parse_nodeTokens hn h.plain]
  rw [read_write_eq hn h.plain, htree]
  exact Node.construct_treeOf h.plain

/-- With a name that is too long for its place a mapping is not read at all. -/
theorem read_write_ne_ok (hn : fields ≠ [])
    (h : (Json.obj fields).Keyed (fun _ => True) (depth + 1))
    (hlong : ¬ (Json.obj fields).Keyed KeyFits (depth + 1)) (hw : 2 * depth + 2 < width)
    (datum : Datum) : read (write (.obj fields)) ≠ .ok datum := by
  have hend := streamEnd_not_mem_tokens h hlong hw
  have hparse := Node.parse_ne_ok hend
  rw [read_write_eq hn h.plain]
  intro hok
  obtain ⟨tree, htree, -⟩ := bind_eq_ok.1 hok
  unfold readTree at htree
  dsimp only at htree
  split at htree
  · next hfound => exact hparse _ hfound
  · cases htree
  · cases htree

/-- The text of a mapping is read as that mapping or not at all. -/
theorem read_write_eq_ok_iff (hn : fields ≠ [])
    (h : (Json.obj fields).Keyed (fun _ => True) (depth + 1)) (hw : 2 * depth + 2 < width)
    (datum : Datum) : read (write (.obj fields)) = .ok datum ↔
      (Json.obj fields).Keyed KeyFits (depth + 1) ∧ datum = Datum.ofJson (.obj fields) := by
  constructor
  · intro hok
    have hkeyed : (Json.obj fields).Keyed KeyFits (depth + 1) := by
      by_contra hlong
      exact read_write_ne_ok hn h hlong hw datum hok
    rw [read_write hn hkeyed hw] at hok
    exact ⟨hkeyed, (Except.ok.inj hok).symm⟩
  · rintro ⟨hkeyed, rfl⟩
    exact read_write hn hkeyed hw

end ScenarioCompiler.Yaml
