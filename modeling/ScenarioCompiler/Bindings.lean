import ScenarioCompiler.Json.Basic

namespace ScenarioCompiler

/-- Texts bound to distinct names, such as the environment of a container. -/
structure Bindings where
  entries : Table String
  distinct : (Table.names entries).Nodup
  deriving DecidableEq, Repr

namespace Bindings

def empty : Bindings := ⟨[], by simp [Table.names]⟩

instance : Inhabited Bindings := ⟨empty⟩

/-- Binds a name: a known one keeps its place, a new one comes last. -/
def put (b : Bindings) (name value : String) : Bindings :=
  ⟨Table.put b.entries name value, Table.nodup_names_put b.distinct name value⟩

def get? (b : Bindings) (name : String) : Option String := Table.get? b.entries name

/-- Binds the names of a list one after the other. -/
def putAll (b : Bindings) (entries : Table String) : Bindings :=
  ⟨Table.putAll b.entries entries, Table.nodup_names_putAll b.distinct entries⟩

def ofEntries (entries : Table String) : Bindings := empty.putAll entries

/-- Adds the bindings of `other`, which win. -/
def update (b other : Bindings) : Bindings := b.putAll other.entries

def names (b : Bindings) : List String := Table.names b.entries

def isEmpty (b : Bindings) : Bool := b.entries.isEmpty

def toJson (b : Bindings) : Json := Json.ofBindings b.entries

@[simp] theorem entries_put (b : Bindings) (name value : String) :
    (b.put name value).entries = Table.put b.entries name value := rfl

@[simp] theorem entries_putAll (b : Bindings) (entries : Table String) :
    (b.putAll entries).entries = Table.putAll b.entries entries := rfl

theorem get?_put (b : Bindings) (name other value : String) :
    (b.put name value).get? other = if other = name then some value else b.get? other :=
  Table.get?_put b.entries name other value

end Bindings

end ScenarioCompiler
