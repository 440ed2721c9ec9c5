import SqlLineage.Graph.Traversal

/-! Circular dependencies: the greatest sets of two or more names that all reach each other. -/

namespace SqlLineage

def ascending {α : Type} [LT α] [DecidableLT α] (items : List α) : List α :=
  items.mergeSort fun a b => !decide (b < a)

namespace Numbered

/-- The numbers that `i` reaches and that reach it. -/
def component (n : Numbered) (i : Nat) : List Nat :=
  (n.visited i).filter (n.reversed.visited i).contains

/-- A number that is in none of the components yet brings its own. -/
def addComponent (n : Numbered) (components : List (List Nat)) (i : Nat) : List (List Nat) :=
  if components.any (·.contains i) then components else components ++ [n.component i]

def components (n : Numbered) : List (List Nat) :=
  (List.range n.names.length).foldl n.addComponent []

def namesOf (n : Numbered) (component : List Nat) : List String :=
  ascending (component.filterMap n.name?)

/-- The names of the components that have more than one number. -/
def cycles (n : Numbered) (components : List (List Nat)) : List (List String) :=
  ascending ((components.filter fun c => 1 < c.length).map n.namesOf)

end Numbered

def Graph.cycles (g : Graph) : List (List String) := g.numbered.cycles g.numbered.components

end SqlLineage
