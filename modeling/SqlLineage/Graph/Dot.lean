import SqlLineage.Graph.Basic

/-! A graph in the language of Graphviz. -/

namespace SqlLineage

def Kind.dotStyle : Kind → String
  | .table => "shape=box, style=filled, fillcolor=lightblue"
  | .view => "shape=ellipse, style=filled, fillcolor=lightgreen"
  | .materializedView => "shape=box3d, style=filled, fillcolor=palegreen"
  | .cteView => "shape=ellipse, style=dashed, color=gray40"
  | .unknown => "shape=box, style=dotted"

/-- A backslash before each `mark`. -/
def escapeChar (mark : Char) (cs : List Char) : List Char :=
  cs.flatMap fun c => if c = mark then ['\\', mark] else [c]

/-- The backslashes come first, so that those before quotes stay single. -/
def dotEscapeChars (cs : List Char) : List Char := escapeChar '"' (escapeChar '\\' cs)

def dotEscape (text : String) : String := String.ofList (dotEscapeChars text.toList)

def dotQuoted (text : String) : String := "\"" ++ dotEscape text ++ "\""

/-- Name, schema and kind of a node; the name stands on a line of its own. -/
def dotLabel (name : String) (n : Node) : String :=
  match n.schema with
  | some schema => dotEscape name ++ "\\n(" ++ dotEscape schema ++ ", " ++ n.kind.name ++ ")"
  | none => dotEscape name ++ "\\n(" ++ n.kind.name ++ ")"

def dotNode (entry : String × Node) : String :=
  let (name, n) := entry
  "  " ++ dotQuoted name ++ " [label=\"" ++ dotLabel name n ++ "\", " ++ n.kind.dotStyle ++ "];\n"

def dotEdge (e : Edge) : String :=
  "  " ++ dotQuoted e.dependency ++ " -> " ++ dotQuoted e.dependent ++ ";\n"

def Graph.toDot (g : Graph) : String :=
  "digraph lineage \x7b\n  rankdir=LR;\n  node [fontname=\"Helvetica\"];\n" ++
    String.join (g.nodes.map dotNode) ++ String.join (g.edges.map dotEdge) ++ "\x7d\n"

end SqlLineage
