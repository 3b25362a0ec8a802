import ScenarioCompiler.Proofs.Json.DropNulls
import ScenarioCompiler.Schema.Decoder

namespace ScenarioCompiler

theorem Bindings.ofEntries_entries (b : Bindings) : ofEntries b.entries = b := by
  have h : (ofEntries b.entries).entries = b.entries := Table.ofEntries_eq_self b.distinct
  cases b
  exact (Bindings.mk.injEq ..).mpr h

namespace Schema

variable {α β : Type} {d : Decoder α} {write : α → Json} {fields : List (String × Json)}
  {name : String} {x : α} {o : Option α}

theorem entry?_ofFields (fields : List (String × Json)) (name : String) :
    Datum.entry? (Datum.ofFields fields) name = (Table.get? fields name).map Datum.ofJson := by
  induction fields with
  | nil => rfl
  | cons field rest ih =>
    rw [Datum.ofFields, Datum.entry?, Table.get?, ih]
    split <;> rfl

/-- A decoder reads the documents that a function writes, once their null fields are dropped. -/
def Decoder.Reads (d : Decoder α) (write : α → Json) : Prop :=
  ∀ x, write x ≠ .null ∧ d.read (.ofJson (write x).dropNulls) = .ok x

namespace Fields

/-- The entries of an object without its null fields. -/
def entriesOf (fields : List (String × Json)) : List (Datum × Datum) :=
  Datum.ofFields (Json.dropNullFields fields)

/-- A value is read from the fields of an object, once the null ones are dropped. -/
def Gives (read : Fields α) (fields : List (String × Json)) (x : α) : Prop :=
  read.read (entriesOf fields) = .ok x

theorem gives_map {read : Fields α} (f : α → β) (h : read.Gives fields x) :
    (f <$> read).Gives fields (f x) := by
  change (read.read (entriesOf fields)).map f = .ok (f x)
  rw [h]
  rfl

theorem gives_seq {function : Fields (α → β)} {read : Fields α} {f : α → β}
    (hf : function.Gives fields f) (h : read.Gives fields x) :
    (function <*> read).Gives fields (f x) := by
  change Checked.seq (function.read (entriesOf fields)) (read.read (entriesOf fields)) = .ok (f x)
  rw [hf, h]
  rfl

/-- The entry of a field that is not null. -/
theorem entry?_entriesOf (hd : (Table.names fields).Nodup) (h : d.Reads write)
    (hg : Table.get? fields name = some (write x)) :
    Datum.entry? (entriesOf fields) name = some (.ofJson (write x).dropNulls) := by
  rw [entriesOf, entry?_ofFields, Json.get?_dropNullFields hd, hg, Option.bind_some,
    Json.kept?_of_ne_null (h x).1, Option.map_some]

theorem gives_required (hd : (Table.names fields).Nodup) (h : d.Reads write)
    (hg : Table.get? fields name = some (write x)) : (required name d).Gives fields x := by
  simp only [Gives, required, entry?_entriesOf hd h hg, (h x).2]
  rfl

theorem gives_withDefault (hd : (Table.names fields).Nodup) (h : d.Reads write)
    (hg : Table.get? fields name = some (write x)) (default : α) :
    (withDefault name d default).Gives fields x := by
  simp only [Gives, withDefault, entry?_entriesOf hd h hg, (h x).2]
  rfl

theorem ofJson_ne_null {j : Json} (h : j ≠ .null) : Datum.ofJson j.dropNulls ≠ .null := by
  cases j <;> simp_all [Json.dropNulls, Datum.ofJson]

/-- A field that is null is absent, and read as such. -/
theorem gives_optional (hd : (Table.names fields).Nodup) (h : d.Reads write)
    (hg : Table.get? fields name = some (Json.ofOption write o)) :
    (optional name d).Gives fields o := by
  cases o with
  | none =>
    have he : Datum.entry? (entriesOf fields) name = none := by
      rw [entriesOf, entry?_ofFields, Json.get?_dropNullFields hd, hg]
      rfl
    simp only [Gives, optional, he]
  | some x =>
    have he : Datum.entry? (entriesOf fields) name = some (.ofJson (write x).dropNulls) :=
      entry?_entriesOf hd h hg
    have hn := ofJson_ne_null (h x).1
    simp only [Gives, optional, he, (h x).2]
    rfl

end Fields

theorem extraProblems_eq_nil {names : List String}
    (h : ∀ name ∈ Table.names fields, name ∈ names) :
    extraProblems names (Datum.ofFields fields) = [] := by
  induction fields with
  | nil => rfl
  | cons field rest ih =>
    obtain ⟨hfirst, hrest⟩ := List.forall_mem_cons.1 h
    rw [Datum.ofFields, extraProblems, if_pos (List.contains_iff_mem.2 hfirst), ih hrest]

namespace Decoder

variable {read : Fields α} {toFields : α → List (String × Json)}

/-- A record reads the objects that have its names for fields, and whose fields give its value. -/
theorem record_reads {recordName : String} {extras : Extras} (hd : read.names.Nodup)
    (hn : ∀ x, Table.names (toFields x) = read.names)
    (hg : ∀ x, (Table.names (toFields x)).Nodup → read.Gives (toFields x) x) :
    (record recordName extras read).Reads fun x => .obj (toFields x) := by
  refine fun x => ⟨by simp, ?_⟩
  have hr : read.read (Fields.entriesOf (toFields x)) = .ok x := hg x (hn x ▸ hd)
  -- dropping null fields adds no name, so a strict record sees no unknown one
  have he : extraProblems read.names (Fields.entriesOf (toFields x)) = [] :=
    extraProblems_eq_nil fun name hm =>
      hn x ▸ (Json.names_dropNullFields_sublist (toFields x)).subset hm
  rw [Json.dropNulls, Datum.ofJson]
  change (record recordName extras read).read (.map (Fields.entriesOf (toFields x))) = .ok x
  cases extras with
  | ignored => exact hr
  | forbidden => simp only [record, hr, Checked.problems, he, List.append_nil]

theorem text_reads : text.Reads .str := fun _ => ⟨by simp, rfl⟩

theorem bool_reads : bool.Reads .bool := fun _ => ⟨by simp, rfl⟩

theorem readItems_ofItems (h : d.Reads write) (index : Nat) (items : List α) :
    readItems d index (Datum.ofItems (Json.dropNullItems (items.map write))) = .ok items := by
  induction items generalizing index with
  | nil => rfl
  | cons item rest ih =>
    rw [List.map_cons, Json.dropNullItems, Datum.ofItems, readItems, (h item).2, ih]
    rfl

theorem list_reads (h : d.Reads write) : (list d).Reads fun items => .arr (items.map write) := by
  refine fun items => ⟨by simp, ?_⟩
  rw [Json.dropNulls, Datum.ofJson]
  exact readItems_ofItems h 0 items

theorem readBindings_ofFields (entries : Table String) :
    readBindings (Datum.ofFields (Json.dropNullFields (entries.map fun b => (b.1, .str b.2)))) =
      .ok entries := by
  induction entries with
  | nil => rfl
  | cons entry rest ih =>
    rw [List.map_cons, Json.dropNullFields, Datum.ofFields, readBindings, ih]
    · rfl
    · simp

theorem bindings_reads : bindings.Reads Bindings.toJson := by
  refine fun b => ⟨by simp [Bindings.toJson, Json.ofBindings], ?_⟩
  have h := readBindings_ofFields b.entries
  rw [Bindings.toJson, Json.ofBindings, Json.dropNulls, Datum.ofJson]
  simp only [bindings, h]
  exact congrArg Except.ok (Bindings.ofEntries_entries b)

end Decoder

end Schema

end ScenarioCompiler
