namespace ScenarioCompiler

/-- Named values in the order in which their names first appeared. -/
abbrev Table (α : Type) := List (String × α)

namespace Table

variable {α : Type}

def names (table : Table α) : List String := table.map (·.1)

/-- Sets a value: a known name keeps its place, a new one comes last. -/
def put (table : Table α) (name : String) (value : α) : Table α :=
  match table with
  | [] => [(name, value)]
  | entry :: rest =>
    if entry.1 = name then (name, value) :: rest else entry :: put rest name value

/-- The value under a name. -/
def get? (table : Table α) (name : String) : Option α :=
  match table with
  | [] => none
  | entry :: rest => if entry.1 = name then some entry.2 else get? rest name

def putAll (table : Table α) (entries : Table α) : Table α :=
  entries.foldl (fun t e => put t e.1 e.2) table

/-- The table of a list of entries; of two entries with one name the last one counts. -/
def ofEntries (entries : Table α) : Table α := putAll [] entries

theorem names_put (table : Table α) (name : String) (value : α) :
    names (put table name value) =
      if name ∈ names table then names table else names table ++ [name] := by
  induction table with
  | nil => simp [put, names]
  | cons entry rest ih =>
    simp only [names] at ih
    by_cases h : entry.1 = name
    · simp [put, names, h]
    · by_cases hr : name ∈ rest.map (·.1) <;> simp_all [put, names, Ne.symm h]

theorem nodup_names_put {table : Table α} (h : (names table).Nodup) (name : String) (value : α) :
    (names (put table name value)).Nodup := by
  rw [names_put]
  split
  · exact h
  · rename_i hn
    exact List.nodup_append.2 ⟨h, by simp, by
      intro a ha b hb e
      simp only [List.mem_singleton] at hb
      exact hn (hb ▸ e ▸ ha)⟩

theorem nodup_names_putAll {table : Table α} (h : (names table).Nodup) (entries : Table α) :
    (names (putAll table entries)).Nodup := by
  induction entries generalizing table with
  | nil => exact h
  | cons entry rest ih => exact ih (nodup_names_put h entry.1 entry.2)

theorem get?_put (table : Table α) (name other : String) (value : α) :
    get? (put table name value) other =
      if other = name then some value else get? table other := by
  induction table with
  | nil => simp [put, get?, eq_comm]
  | cons entry rest ih =>
    by_cases h : entry.1 = name
    · by_cases ho : other = name <;> simp_all [put, get?, eq_comm]
    · by_cases ho : entry.1 = other
      · simp_all [put, get?]
      · simp_all [put, get?]

end Table

end ScenarioCompiler
