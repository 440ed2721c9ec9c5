import SqlLineage.Catalog
import SqlLineage.Node

/-! The nodes seen so far, by base name. Names with one base are one node. -/

namespace SqlLineage

abbrev Registry := Catalog Node

namespace Registry

/-- A reference to an object of the given kind; `definition` is what defines it, if this does. -/
def register (nodes : Registry) (r : Reference) (kind : Kind) (definition : Option String) :
    Registry :=
  if r.base.isEmpty then nodes
  else match nodes.find? r.base with
    | none => nodes.insert r.base (.first r kind definition)
    | some n => nodes.insert r.base (n.update r kind definition)

/-- A reference to an object whose kind had to be guessed; the guess counts at first sight only. -/
def registerInferred (nodes : Registry) (r : Reference) (guess : Kind) : Registry :=
  if r.base.isEmpty then nodes
  else match nodes.find? r.base with
    | none => nodes.insert r.base { Node.first r guess none with inferred := true }
    | some n => nodes.insert r.base (n.update r n.kind none)

def kindOf? (nodes : Registry) (base : String) : Option Kind := (nodes.find? base).map Node.kind

end Registry

/-- The name under which a reference is registered. -/
def Reference.key? (r : Reference) : Option String := if r.base.isEmpty then none else some r.base

end SqlLineage
