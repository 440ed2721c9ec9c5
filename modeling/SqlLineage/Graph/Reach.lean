import SqlLineage.Graph.Traversal

/-! The part of a graph around some names. -/

namespace SqlLineage

/-- The names of what is reached from `i` along the edges or against them. -/
def Numbered.around (n : Numbered) (i : Nat) : List String :=
  (n.visited i).filterMap n.name? ++ (n.reversed.visited i).filterMap n.name?

namespace Graph

/-- The graph on some of its names. -/
def restrict (g : Graph) (keep : List String) : Graph :=
  let nodes := g.nodes.filter fun entry => keep.contains entry.1
  { edges := g.edges.filter fun e => keep.contains e.dependency && keep.contains e.dependent
    nodes := nodes
    stats := schemaStats (Catalog.values nodes)
    skipped := g.skipped }

/-- The names with all that they read from and all that reads from them; nothing if the graph has
none of the names. -/
def focus (g : Graph) (names : List String) : Option Graph :=
  let n := g.numbered
  match names.filterMap n.indexOf? with
  | [] => none
  | starts => some (g.restrict (starts.flatMap n.around))

end Graph
end SqlLineage
