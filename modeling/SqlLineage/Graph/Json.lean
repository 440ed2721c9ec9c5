import SqlLineage.Graph.Basic
import SqlLineage.Json.Decode
import SqlLineage.Json.Writer

/-! Graphs as JSON, and the files that hold a graph. -/

namespace SqlLineage

def Kind.json (k : Kind) : Json := k.name

def Kind.ofJson : Json.Decoder Kind := Json.asVariant (Kind.all.map fun k => (k.name, k))

def Guess.ofJson : Json.Decoder Guess := Json.asVariant (Guess.all.map fun g => (g.name, g))

namespace Node

def json (n : Node) : Json :=
  .object [("kind", n.kind.json), ("schema", .ofString? n.schema), ("full_name", n.fullName),
    ("definition", .ofString? n.definition), ("inferred", n.inferred)]

def shape : Json.Shape :=
  { name := "NodeInfo"
    fields := [("kind", Json.checked Kind.ofJson),
      ("schema", Json.checked (Json.asOption Json.asString)),
      ("full_name", Json.checked Json.asString),
      ("definition", Json.checked (Json.asOption Json.asString)),
      ("inferred", Json.checked Json.asBool)]
    inArray := 4 }

def ofJson : Json.Decoder Node := fun j => do
  let given ← Json.membersOf shape j
  return {
    kind := ← Json.required given "kind" Kind.ofJson
    schema := ← Json.defaulted given "schema" none (Json.asOption Json.asString)
    fullName := ← Json.required given "full_name" Json.asString
    definition := ← Json.defaulted given "definition" none (Json.asOption Json.asString)
    inferred := ← Json.defaulted given "inferred" false Json.asBool }

end Node

namespace Edge

def json (e : Edge) : Json := .array [e.dependency, e.dependent]

def ofJson : Json.Decoder Edge := fun j => do
  let (dependency, dependent) ← Json.asPair Json.asString j
  return ⟨dependency, dependent⟩

end Edge

namespace Skipped

def json (s : Skipped) : Json :=
  .object [("index", s.index), ("sql", s.sql), ("error", s.error)]

def shape : Json.Shape :=
  { name := "SkippedStatement"
    fields := [("index", Json.checked Json.asCount), ("sql", Json.checked Json.asString),
      ("error", Json.checked Json.asString)]
    inArray := 3 }

def ofJson : Json.Decoder Skipped := fun j => do
  let given ← Json.membersOf shape j
  return {
    index := ← Json.required given "index" Json.asCount
    sql := ← Json.required given "sql" Json.asString
    error := ← Json.required given "error" Json.asString }

end Skipped

def Catalog.json {α : Type} (value : α → Json) (catalog : Catalog α) : Json :=
  .object (catalog.map fun (name, a) => (name, value a))

namespace Graph

def edgesJson (g : Graph) : Json := .array (g.edges.map Edge.json)

def nodesJson (g : Graph) : Json := Catalog.json Node.json g.nodes

def statsJson (g : Graph) : Json := Catalog.json (fun n : Nat => (n : Json)) g.stats

/-- The statements that were left out are named only if there are any. -/
def json (g : Graph) : Json :=
  .object ([("edges", g.edgesJson), ("nodes", g.nodesJson), ("stats", g.statsJson)] ++
    if g.skipped.isEmpty then [] else [("skipped", .array (g.skipped.map Skipped.json))])

def shape : Json.Shape :=
  { name := "LineageGraph"
    fields := [("edges", Json.checked (Json.asList Edge.ofJson)),
      ("nodes", Json.checked (Json.asCatalog Node.ofJson)),
      ("stats", Json.checked (Json.asCatalog Json.asCount)),
      ("skipped", Json.checked (Json.asList Skipped.ofJson))]
    inArray := 3 }

def ofJson : Json.Decoder Graph := fun j => do
  let given ← Json.membersOf shape j
  return {
    edges := ← Json.required given "edges" (Json.asList Edge.ofJson)
    nodes := ← Json.required given "nodes" (Json.asCatalog Node.ofJson)
    stats := ← Json.required given "stats" (Json.asCatalog Json.asCount)
    skipped := ← Json.defaulted given "skipped" [] (Json.asList Skipped.ofJson) }

/-- The files that hold a graph, with their contents. -/
def exportFiles (g : Graph) : List (String × String) :=
  [("edges.json", g.edgesJson.pretty), ("node_types.json", g.nodesJson.pretty),
    ("stats.json", g.statsJson.pretty)]

end Graph
end SqlLineage
