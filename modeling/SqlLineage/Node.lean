import SqlLineage.Reference

/-! What is known of a table or view. -/

namespace SqlLineage

inductive Kind
  | unknown
  | table
  | materializedView
  | view
  | cteView
  deriving DecidableEq, Repr

namespace Kind

def all : List Kind := [unknown, table, materializedView, view, cteView]

def name : Kind → String
  | unknown => "unknown"
  | table => "table"
  | materializedView => "materialized_view"
  | view => "view"
  | cteView => "cte_view"

/-- The kind of higher rank wins when one name is seen as two. -/
def rank : Kind → Nat
  | unknown => 0
  | table => 1
  | materializedView => 2
  | view => 3
  | cteView => 4

instance : LE Kind := ⟨fun a b => a.rank ≤ b.rank⟩

instance (a b : Kind) : Decidable (a ≤ b) := inferInstanceAs (Decidable (a.rank ≤ b.rank))

end Kind

structure Node where
  kind : Kind
  schema : Option String
  fullName : String
  definition : Option String
  /-- The kind is a guess; nothing seen so far defines the name. -/
  inferred : Bool
  deriving DecidableEq, Repr

namespace Node

/-- The node at the first sight of its name. -/
def first (r : Reference) (kind : Kind) (definition : Option String) : Node :=
  if kind = .cteView then ⟨kind, none, r.base, definition, false⟩
  else ⟨kind, r.schema, r.fullName, definition, false⟩

/-- The node once its name turns out to be that of a common table expression. -/
def asCte (n : Node) (base : String) (definition : Option String) : Node :=
  ⟨.cteView, none, base, definition.or n.definition, false⟩

/-- A definition gives the name as it is written there, and ends all guessing. -/
def define (n : Node) (fullName : String) : Option String → Node
  | none => n
  | some definition =>
    { n with fullName := fullName, definition := some definition, inferred := false }

/-- The first schema that is seen stays; it comes with the full name if there was only the base. -/
def fillSchema (n : Node) (r : Reference) : Node :=
  match n.schema, r.schema with
  | none, some schema =>
    { n with
      schema := some schema
      fullName := if n.fullName = r.base then r.fullName else n.fullName }
  | _, _ => n

/-- The node after its name is seen once more. -/
def update (n : Node) (r : Reference) (kind : Kind) (definition : Option String) : Node :=
  if n.kind = .cteView then n
  else if kind = .cteView then n.asCte r.base definition
  else if n.inferred && definition.isSome || n.kind ≤ kind then
    (define { n with kind := kind } r.fullName definition).fillSchema r
  else n

end Node
end SqlLineage
