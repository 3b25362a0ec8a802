import ScenarioCompiler.Distinct
import ScenarioCompiler.Failure
import ScenarioCompiler.Json.Reader
import ScenarioCompiler.Placeholder
import ScenarioCompiler.Request.Basic
import ScenarioCompiler.Text.Blank

namespace ScenarioCompiler

/-- The items of a list in which all are texts. -/
def textItems? : List Json → Option (List String)
  | [] => some []
  | .str s :: rest => (textItems? rest).map (s :: ·)
  | _ :: _ => none

namespace DatasetIds

def isQuote (c : Char) : Bool := c = '"' || c = '\''

/-- An item of a list without blanks, quotes, and the blanks inside the quotes. -/
def clean (item : List Char) : List Char :=
  Text.trimBoth Text.isBlank (Text.trimBoth isQuote (Text.trimBoth Text.isBlank item))

def cleanAll (items : List (List Char)) : List String :=
  ((items.map clean).filter (!·.isEmpty)).map String.ofList

/-- The dataset ids in the value of a parameter: a value that does not begin with a bracket is one
id, any other is a JSON list of texts or a list of items between commas. -/
def parse (value : String) : Except Failure (List String) :=
  match value.toList with
  | '[' :: rest =>
    if rest.getLast? ≠ some ']' then
      .error (.malformedDatasetIds value Failure.unterminatedList)
    else
      let refused := Except.error (.malformedDatasetIds value "items must be strings")
      match Json.read value with
      | none => .ok (cleanAll (Text.splitAll [','] rest.dropLast))
      | some (.arr items) =>
        match textItems? items with
        | some texts => .ok (cleanAll (texts.map String.toList))
        | none => refused
      | some _ => refused
  | _ => .ok [value]

/-- The last definition of a parameter of a solution. -/
def parameter? (solution : Solution) (id : String) : Option SolutionParameter :=
  solution.parameters.reverse.find? (·.id == id)

/-- The ids that one value of a scenario names, with the id of its parameter; nothing when the
parameter is of another type or the value is empty. -/
def ofValue (solution : Solution) (value : ParameterValue) :
    Except Failure (Option (String × List String)) :=
  match parameter? solution value.parameterId with
  | none => .error (.unknownParameter value.parameterId solution.id)
  | some parameter =>
    if Placeholder.classify parameter.varType ≠ .datasetId then .ok none
    else if value.value.isEmpty then .ok none
    else (parse value.value).map fun ids => some (parameter.id, ids)

/-- The dataset ids of each parameter up to the first failure. -/
def perParameter (solution : Solution) :
    List ParameterValue → List (String × List String) × Option Failure
  | [] => ([], none)
  | value :: rest =>
    match ofValue solution value with
    | .error failure => ([], some failure)
    | .ok found =>
      let (items, failure) := perParameter solution rest
      (found.toList ++ items, failure)

/-- The dataset ids of each parameter in the order of the values of the scenario. -/
def ofScenario (scenario : Scenario) (solution : Solution) :
    Except Failure (List (String × List String)) :=
  match perParameter solution scenario.parametersValues with
  | (items, none) => .ok items
  | (_, some failure) => .error failure

/-- The parameters of the groups that a run template uses. -/
def groupedParameters (solution : Solution) (groups : List String) : List String :=
  (solution.parameterGroups.filter fun g => groups.contains g.id).flatMap (·.parameters)

/-- The ids that the values of one parameter name. -/
def ofParameter (scenario : Scenario) (id : String) : Except Failure (List String) := do
  let values := scenario.parametersValues.filter fun v => v.parameterId = id && !v.value.isEmpty
  let lists ← values.mapM fun v => parse v.value
  pure lists.flatten

/-- The ids of the datasets to look up before a scenario is compiled. -/
def collect (scenario : Scenario) (solution : Solution) (template : RunTemplate) :
    Except Failure (List String) := do
  let grouped := groupedParameters solution (template.parameterGroups.getD [])
  let parameters := solution.parameters.filter fun p =>
    grouped.contains p.id && Placeholder.classify p.varType = .datasetId
  let lists ← parameters.mapM fun p => ofParameter scenario p.id
  pure (distinct (scenario.datasetList ++ lists.flatten))

end DatasetIds

end ScenarioCompiler
