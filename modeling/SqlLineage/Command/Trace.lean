import SqlLineage.Command.Log
import SqlLineage.Graph.Reach

/-! What the log says about the reading of a script and the making of its graph. -/

namespace SqlLineage.Trace

open Log (Record)

def script : String := "dataflow::sql_engine::script"

def lineage : String := "dataflow::sql_engine::lineage"

def graph : String := "dataflow::sql_engine::graph"

def dialects : String := "dataflow::sql_engine::dialects"

def config : String := "dataflow::commands::config"

/-- An unknown label is worth a word. -/
def ofLabel (label : String) : List Record :=
  if (Dialect.ofLabel? label).isSome then []
  else [⟨.warn, dialects,
    "Unknown SQL dialect '" ++ label ++ "', falling back to generic"⟩]

def ofSkipped (s : Skipped) : Record :=
  ⟨.warn, script, "Skipping statement " ++ toString (s.index + 1) ++ ": " ++ s.error⟩

def ofReading {σ : Type} (dialect : Dialect) : Script.Reading σ → List Record
  | .whole [] => []
  | .whole statements =>
    [⟨.debug, script, "Parsed " ++ toString statements.length ++ " statements in one pass"⟩]
  | .piecewise error parsed =>
    ⟨.warn, script, "Script does not parse as a whole with the " ++ dialect.name ++ " dialect (" ++
      error ++ "); parsing statement by statement"⟩ :: parsed.skipped.map ofSkipped

def ofEdge (e : Edge) : Record :=
  ⟨.debug, lineage, "Edge " ++ e.dependency ++ " -> " ++ e.dependent⟩

/-- The edges that `after` has over `before`. -/
def newEdges (before after : Builder) : List Record :=
  (after.edges.drop before.edges.length).map ofEdge

def ofCreated (s : Sql.Statement) : List Record :=
  match created? s with
  | none =>
    [⟨.debug, lineage, "Statement creates no lineage node, skipping: " ++
      String.ofList (s.text.toList.take 80)⟩]
  | some c =>
    match Reference.ofObjectName c.name with
    | none =>
      [⟨.debug, lineage, "Created object has no usable name: " ++ Sql.ObjectName.render c.name⟩]
    | some r =>
      [⟨.debug, lineage, "Found created object: " ++ r.fullName ++ " (" ++ c.kind.name ++ ")"⟩]

def ofStep (guess : String → Kind) (b : Builder) (s : Sql.Statement) : List Record :=
  let linked := Builder.addCtes guess b (namedCtes s)
  newEdges b linked ++ ofCreated s ++ newEdges linked (Builder.step guess b s)

def ofRun (guess : String → Kind) (b : Builder) : List Sql.Statement → List Record
  | [] => []
  | s :: rest => ofStep guess b s ++ ofRun guess (Builder.step guess b s) rest

def ofGraph (dialect : Dialect) (g : Graph) : Record :=
  ⟨.info, lineage, dialect.name ++ " parsing complete. Found " ++ toString g.nodes.length ++
    " nodes and " ++ toString g.edges.length ++ " edges (" ++ toString g.skipped.length ++
    " statements skipped)"⟩

def ofParsed (dialect : Dialect) (guess : String → Kind) (parsed : Script.Parsed Sql.Statement) :
    List Record :=
  ofRun guess {} parsed.statements ++ [ofGraph dialect (Graph.ofParsed guess parsed)]

/-- What the log says about the lineage of a script. -/
def ofScript (dialect : Dialect) (guess : String → Kind) (sql : String) : List Record :=
  match Script.readWith (Script.parseText dialect) dialect sql with
  | .error _ => []
  | .ok reading =>
    ofReading dialect reading ++
      match reading.result dialect with
      | .error _ => []
      | .ok parsed => ofParsed dialect guess parsed

/-- Names to look at that the graph does not have. -/
def ofFocus (g : Graph) (names : List String) : List Record :=
  (names.filter fun n => (g.numbered.indexOf? n).isNone).map fun n =>
    ⟨.debug, graph, "Focus node " ++ n ++ " is not in the graph"⟩

end SqlLineage.Trace
