import ScenarioCompiler.Container.Basic
import ScenarioCompiler.Request.Schema

namespace ScenarioCompiler

open Schema Schema.Decoder Schema.Fields

namespace Container

def decoder : Decoder Container := record "ScenarioRunContainer" .forbidden <|
  Container.mk <$> required "name" text <*> required "image" text
    <*> optional "entrypoint" text
    <*> optional "runArgs" (list text)
    <*> optional "envVars" bindings
    <*> optional "labels" bindings
    <*> optional "dependencies" (list text)
    <*> withDefault "solutionContainer" bool false
    <*> optional "runSizing" ResourceSizing.decoder

def toJson (c : Container) : Json := .obj [
  ("name", .str c.name),
  ("image", .str c.image),
  ("entrypoint", Json.ofOption .str c.entrypoint),
  ("runArgs", Json.ofOption Json.ofStrings c.runArgs),
  ("envVars", Json.ofOption Bindings.toJson c.envVars),
  ("labels", Json.ofOption Bindings.toJson c.labels),
  ("dependencies", Json.ofOption Json.ofStrings c.dependencies),
  ("solutionContainer", .bool c.solutionContainer),
  ("runSizing", Json.ofOption ResourceSizing.toJson c.runSizing)]

end Container

namespace RunStart

def decoder : Decoder RunStart := record "ScenarioRunStartContainers" .forbidden <|
  RunStart.mk <$> required "containers" (list Container.decoder)
    <*> optional "nodeLabel" text
    <*> optional "generateName" text
    <*> required "csmSimulationId" text
    <*> optional "labels" bindings

def toJson (s : RunStart) : Json := .obj [
  ("containers", .arr (s.containers.map Container.toJson)),
  ("nodeLabel", Json.ofOption .str s.nodeLabel),
  ("generateName", Json.ofOption .str s.generateName),
  ("csmSimulationId", .str s.csmSimulationId),
  ("labels", Json.ofOption Bindings.toJson s.labels)]

/-- The interchange document: what is absent is left out. -/
def document (s : RunStart) : Json := s.toJson.dropNulls

end RunStart

end ScenarioCompiler
