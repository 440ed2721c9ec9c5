import SqlLineage.Lineage.Builder
import SqlLineage.Script.Reading
import SqlLineage.Stats

/-! Lineage graphs. -/

namespace SqlLineage

structure Graph where
  edges : List Edge := []
  nodes : Catalog Node := []
  /-- How many objects each schema has. -/
  stats : Catalog Nat := []
  skipped : List Skipped := []
  deriving DecidableEq, Repr

namespace Graph

def node? (g : Graph) (name : String) : Option Node := g.nodes.find? name

def kindOf? (g : Graph) (name : String) : Option Kind := (g.node? name).map Node.kind

def hasEdge (g : Graph) (dependency dependent : String) : Bool :=
  g.edges.contains ⟨dependency, dependent⟩

/-- What `name` reads from directly. -/
def dependenciesOf (g : Graph) (name : String) : List String :=
  (g.edges.filter fun e => e.dependent == name).map Edge.dependency

/-- What reads from `name` directly. -/
def dependentsOf (g : Graph) (name : String) : List String :=
  (g.edges.filter fun e => e.dependency == name).map Edge.dependent

def ofBuilder (b : Builder) (skipped : List Skipped) : Graph :=
  ⟨b.edges, b.nodes, schemaStats b.nodes.values, skipped⟩

/-- The lineage of the statements of a script. -/
def ofParsed (guess : String → Kind) (script : Script.Parsed Sql.Statement) : Graph :=
  ofBuilder (Builder.run guess script.statements) script.skipped

end Graph

/-- The lineage of a script. -/
def lineage (dialect : Dialect) (guess : String → Kind) (sql : String) :
    Except Script.Error Graph :=
  (Script.parse dialect sql).map (Graph.ofParsed guess)

end SqlLineage
