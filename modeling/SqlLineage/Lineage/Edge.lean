/-! Edges of a lineage graph, from what is read to what reads it. -/

namespace SqlLineage

structure Edge where
  dependency : String
  dependent : String
  deriving DecidableEq, Repr

/-- Edges in the order of discovery, each once, none from a name to itself. -/
abbrev EdgeSet := List Edge

namespace EdgeSet

def accepts (edges : EdgeSet) (e : Edge) : Bool :=
  e.dependency != e.dependent && !edges.contains e

def insert (edges : EdgeSet) (e : Edge) : EdgeSet :=
  if edges.accepts e then edges ++ [e] else edges

end EdgeSet
end SqlLineage
