import SqlLineage.Graph.Basic

/-! The names of a graph as numbers: node names first, then names that only edges have, in the order
of their first appearance. -/

namespace SqlLineage

/-- A graph whose edges run between numbers. A name and its number are found from each other. -/
@[ext]
structure Numbered where
  /-- Each name at the place that is its number. -/
  names : List String := []
  indices : Catalog Nat := []
  edges : List (Nat × Nat) := []
  deriving DecidableEq, Repr

namespace Numbered

def indexOf? (n : Numbered) (name : String) : Option Nat := n.indices.find? name

def name? (n : Numbered) (i : Nat) : Option String := n.names[i]?

/-- A name that has no number takes the next one. -/
def addName (n : Numbered) (name : String) : Numbered :=
  if n.indices.contains name then n
  else { n with names := n.names ++ [name], indices := n.indices.insert name n.names.length }

/-- An edge is left out if one of its ends has no number. -/
def addEdge (n : Numbered) (e : Edge) : Numbered :=
  match n.indexOf? e.dependency, n.indexOf? e.dependent with
  | some a, some b => { n with edges := n.edges ++ [(a, b)] }
  | _, _ => n

/-- Every edge the other way round. -/
def reversed (n : Numbered) : Numbered := { n with edges := n.edges.map Prod.swap }

end Numbered

namespace Graph

def edgeNames (g : Graph) : List String := g.edges.flatMap fun e => [e.dependency, e.dependent]

/-- The names in numbers, without the edges. -/
def numberedNames (g : Graph) : Numbered :=
  (g.nodes.names ++ g.edgeNames).foldl Numbered.addName {}

def numbered (g : Graph) : Numbered := g.edges.foldl Numbered.addEdge g.numberedNames

end Graph
end SqlLineage
