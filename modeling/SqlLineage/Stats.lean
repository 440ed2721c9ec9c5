import SqlLineage.Catalog
import SqlLineage.Node

/-! How many objects each schema has. -/

namespace SqlLineage

/-- The schema for which a node counts; a common table expression counts for none. -/
def countedSchema? (n : Node) : Option String :=
  if n.kind = .cteView then none else n.schema.filter fun s => !s.isEmpty

def countIn (stats : Catalog Nat) (schema : String) : Catalog Nat :=
  stats.insert schema ((stats.find? schema).getD 0 + 1)

def schemaStats (nodes : List Node) : Catalog Nat :=
  (nodes.filterMap countedSchema?).foldl countIn []

end SqlLineage
