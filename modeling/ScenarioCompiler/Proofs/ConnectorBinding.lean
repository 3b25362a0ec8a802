import ScenarioCompiler.ConnectorBinding
import ScenarioCompiler.Distinct
import ScenarioCompiler.Proofs.LastItem
import ScenarioCompiler.Proofs.Outcome
import ScenarioCompiler.Proofs.Pipeline.Compile
import ScenarioCompiler.Proofs.Table

namespace ScenarioCompiler

namespace Table

variable {α : Type} {table entries : Table α} {name : String} {entry : String × α}

/-- New names come behind those of the table, in the order of their first appearance. -/
theorem names_putAll : names (putAll table entries) =
    names table ++ (distinct (names entries)).filter fun name => name ∉ names table := by
  induction entries generalizing table with
  | nil => simp [putAll, names, distinct]
  | cons entry rest ih =>
    change names (putAll (put table entry.1 entry.2) rest) = _
    rw [ih, names_put]
    change _ = names table ++ (entry.1 :: (distinct (names rest)).filter (· ≠ entry.1)).filter
      fun name => name ∉ names table
    rw [List.filter_cons, List.filter_filter]
    by_cases h : entry.1 ∈ names table
    · rw [if_pos h, if_neg (by simpa using h)]
      congr 1
      refine List.filter_congr fun name _ => ?_
      by_cases hn : name = entry.1 <;> simp [hn, h]
    · rw [if_neg h, if_pos (by simpa using h), List.append_assoc, List.singleton_append]
      congr 2
      refine List.filter_congr fun name _ => ?_
      simp [not_or]

/-- Of several entries with one name the last one counts. -/
theorem get?_putAll_of_isLast (h : IsLast (·.1 = name) entries entry) :
    get? (putAll table entries) name = some entry.2 := by
  obtain ⟨before, after, rfl, rfl, ha⟩ := h
  have hafter : entry.1 ∉ names after := by
    intro hm
    obtain ⟨other, hm, he⟩ := List.mem_map.1 hm
    exact ha other hm he
  rw [← List.singleton_append, ← List.append_assoc, putAll_append,
    get?_putAll_of_notMem hafter, putAll_append]
  exact (get?_put _ _ _ _).trans (if_pos rfl)

end Table

namespace ConnectorBinding

/-- The variables that parameters with the given values are bound to, once for each parameter. -/
def assignments (value : ConnectorParameter → String) (parameters : List ConnectorParameter) :
    Table String :=
  parameters.filterMap fun p => p.envVar.map fun envVar => (envVar, value p)

/-- Every parameter is either an argument or a variable: the arguments are the values of the
parameters without a variable, and each variable has the value of the last parameter that declares
it. -/
structure Partitions (parameters : List ConnectorParameter) (value : ConnectorParameter → String)
    (binding : ConnectorBinding) : Prop where
  arguments : binding.arguments = (parameters.filter fun p => p.envVar = none).map value
  names : binding.envVars.names = distinct (parameters.filterMap (·.envVar))
  values : ∀ name p, IsLast (·.envVar = some name) parameters p →
    binding.envVars.get? name = some (value p)

/-- The value that a parameter has for a container: the one of the dataset, else the default, else
nothing, with its placeholders filled in. -/
def received (settings : PlatformSettings) (organizationId workspaceId : String)
    (values : Bindings) (p : ConnectorParameter) : String :=
  Placeholder.resolve settings ((values.get? p.id).getD (p.default.getD "")) organizationId
    workspaceId p.envVar.isSome

variable {resolve : String → Bool → String} {values others : Bindings} {binding : ConnectorBinding}
  {parameters : List ConnectorParameter} {value : ConnectorParameter → String} {name : String}
  {p : ConnectorParameter}

theorem assignments_cons_of_none (h : p.envVar = none) :
    assignments value (p :: parameters) = assignments value parameters :=
  List.filterMap_cons_none (by rw [h, Option.map_none])

theorem assignments_cons_of_some (h : p.envVar = some name) :
    assignments value (p :: parameters) = (name, value p) :: assignments value parameters :=
  List.filterMap_cons_some (by rw [h, Option.map_some])

theorem names_assignments :
    Table.names (assignments value parameters) = parameters.filterMap (·.envVar) := by
  rw [Table.names, assignments, List.map_filterMap]
  refine List.filterMap_congr fun p _ => ?_
  cases p.envVar <;> rfl

theorem isLast_assignments (h : IsLast (·.envVar = some name) parameters p) :
    IsLast (·.1 = name) (assignments value parameters) (name, value p) := by
  obtain ⟨before, after, rfl, hp, ha⟩ := h
  refine ⟨assignments value before, assignments value after, ?_, rfl, fun entry hm he => ?_⟩
  · rw [← assignments_cons_of_some hp]
    exact List.filterMap_append
  · obtain ⟨q, hq, hv⟩ := List.mem_filterMap.1 hm
    obtain ⟨envVar, hvar, rfl⟩ := Option.map_eq_some_iff.1 hv
    exact ha q hq (hvar.trans (congrArg some he))

/-- What the parameters still to come add to a binding. -/
theorem foldl_add (resolve : String → Bool → String) (values : Bindings)
    (hv : ∀ p, value p = resolve (valueOf values p) p.envVar.isSome) :
    parameters.foldl (add resolve values) binding =
      ⟨binding.envVars.putAll (assignments value parameters),
        binding.arguments ++ (parameters.filter fun p => p.envVar = none).map value⟩ := by
  induction parameters generalizing binding with
  | nil => simp [assignments, Bindings.putAll, Table.putAll]
  | cons p rest ih =>
    rw [List.foldl_cons, ih, add, ← hv]
    cases he : p.envVar with
    | none =>
      rw [assignments_cons_of_none he, List.filter_cons_of_pos (by simp [he]), List.map_cons,
        List.append_assoc, List.singleton_append]
    | some envVar =>
      rw [assignments_cons_of_some he, List.filter_cons_of_neg (by simp [he])]
      rfl

theorem partitions_foldl_add
    (hv : ∀ p, value p = resolve (valueOf values p) p.envVar.isSome) :
    Partitions parameters value (parameters.foldl (add resolve values) ⟨.empty, []⟩) := by
  rw [foldl_add resolve values hv]
  refine ⟨List.nil_append _, ?_, fun name p hp => ?_⟩
  · -- no variable is bound before the first parameter, so that all names are new
    change Table.names (Table.putAll [] (assignments value parameters)) = _
    rw [Table.names_putAll, names_assignments]
    exact List.filter_eq_self.2 (by simp [Table.names])
  · exact Table.get?_putAll_of_isLast (isLast_assignments hp)

theorem foldl_add_congr
    (h : ∀ p ∈ parameters, values.get? p.id = others.get? p.id) :
    parameters.foldl (add resolve values) binding =
      parameters.foldl (add resolve others) binding := by
  induction parameters generalizing binding with
  | nil => rfl
  | cons p rest ih =>
    obtain ⟨hp, hrest⟩ := List.forall_mem_cons.1 h
    have hadd : add resolve values binding p = add resolve others binding p := by
      rw [add, add, valueOf, valueOf, hp]
    rw [List.foldl_cons, List.foldl_cons, hadd, ih hrest]

theorem valuesFor_eq {dataset : Dataset} {use : DatasetConnector} {id : String}
    (hu : dataset.connector = some use) (hid : use.id = some id) (connector : Connector) :
    valuesFor dataset connector = if id = connector.id then .ok use.parametersValues
      else .error (.connectorMismatch id connector.id) := by
  rw [valuesFor, hu]
  simp [hid]

/-- A dataset is bound to the connector that it uses: the parameters are partitioned in the order
of their declaration, and only the values that the dataset gives to declared parameters count. -/
theorem of_partitions (settings : PlatformSettings) (connector : Connector)
    (organizationId workspaceId : String) :
    (∀ dataset use, dataset.connector = some use → use.id = some connector.id →
      ∃ binding, of settings connector dataset organizationId workspaceId = .ok binding ∧
        Partitions connector.parameters
          (received settings organizationId workspaceId use.parametersValues) binding) ∧
    ∀ dataset other use otherUse id, dataset.connector = some use → use.id = some id →
      other.connector = some otherUse → otherUse.id = some id →
      (∀ p ∈ connector.parameters,
        use.parametersValues.get? p.id = otherUse.parametersValues.get? p.id) →
      of settings connector dataset organizationId workspaceId =
        of settings connector other organizationId workspaceId := by
  constructor
  · intro dataset use hu hid
    refine ⟨_, by rw [of, valuesFor_eq hu hid, if_pos rfl]; rfl, ?_⟩
    exact partitions_foldl_add fun p => rfl
  · intro dataset other use otherUse id hu hid hu' hid' h
    rw [of, of, valuesFor_eq hu hid, valuesFor_eq hu' hid']
    split
    · exact congrArg Except.ok (foldl_add_congr h)
    · rfl

/-- A connector with two groups of parameters, three of which declare variables, two the same. -/
def groupedConnector : Connector where
  id := "c"
  key := none
  name := none
  repository := "image"
  version := none
  azureManagedIdentity := none
  azureAuthenticationWithCustomerAppRegistration := none
  parameterGroups := [
    ⟨"g", none, [⟨"a", none, none, some "x", some "E"⟩, ⟨"b", none, none, some "y", none⟩]⟩,
    ⟨"h", none, [⟨"c", none, none, none, some ""⟩, ⟨"d", none, none, none, none⟩,
      ⟨"a", none, none, some "z", some "E"⟩, ⟨"e", none, none, some "z", some "E"⟩]⟩]

def groupedDataset (values : Table String) : Dataset :=
  ⟨"dataset", none, some ⟨some "c", none, none, .ofEntries values⟩⟩

theorem groupedConnector_partitions :
    ∃ binding, of Pipeline.smallPlatform groupedConnector
        (groupedDataset [("b", ""), ("a", "1")]) "o" "w" = .ok binding ∧
      binding.arguments = ["", ""] ∧ binding.envVars.entries = [("E", "z"), ("", "")] ∧
      binding.envVars.names = distinct ["E", "", "E", "E"] ∧
      of Pipeline.smallPlatform groupedConnector
        (groupedDataset [("unknown", "2"), ("a", "1"), ("b", "")]) "o" "w" = .ok binding := by
  obtain ⟨hpartition, hagree⟩ := of_partitions Pipeline.smallPlatform groupedConnector "o" "w"
  obtain ⟨binding, hb, hp⟩ :=
    hpartition (groupedDataset [("b", ""), ("a", "1")]) _ rfl rfl
  have hargs : binding.arguments = ["", ""] := hp.arguments.trans (by decide)
  have hsame := hagree (groupedDataset [("b", ""), ("a", "1")])
    (groupedDataset [("unknown", "2"), ("a", "1"), ("b", "")]) _ _ "c" rfl rfl rfl rfl (by decide)
  have hentries : (of Pipeline.smallPlatform groupedConnector
      (groupedDataset [("b", ""), ("a", "1")]) "o" "w").map (·.envVars.entries) =
      .ok [("E", "z"), ("", "")] := by decide
  rw [hb] at hentries
  exact ⟨binding, hb, hargs, Except.ok.inj hentries, hp.names, hsame ▸ hb⟩

end ConnectorBinding

end ScenarioCompiler
