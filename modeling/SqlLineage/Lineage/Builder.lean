import SqlLineage.Guess
import SqlLineage.Lineage.Dependency
import SqlLineage.Lineage.Edge
import SqlLineage.Registry

/-! Nodes and edges of a script, statement by statement. -/

namespace SqlLineage

namespace Sql.Statement

/-- The query that feeds a statement. -/
def definingQuery? (s : Statement) : Option Query :=
  match s.effect with
  | .query q => some q
  | .insert source => source
  | .createTable _ query => query
  | .createView _ _ query => some query
  | .other => none

end Sql.Statement

/-- A table or view that a statement creates. -/
structure Created where
  name : Sql.ObjectName
  kind : Kind
  query : Option Sql.Query

def created? (s : Sql.Statement) : Option Created :=
  match s.effect with
  | .createTable name query => some ⟨name, .table, query⟩
  | .createView name materialized query =>
    some ⟨name, if materialized then .materializedView else .view, some query⟩
  | _ => none

structure Builder where
  nodes : Registry := []
  edges : EdgeSet := []

/-- A common table expression with a usable name. -/
structure NamedCte where
  name : String
  reference : Reference
  definition : String
  body : Sql.Mention

def namedCte? (cte : Sql.Cte) : Option NamedCte := do
  let name ← cteName? cte.name
  let reference ← Reference.bare name
  return ⟨name, reference, cte.text, cte.body⟩

def namedCtes (s : Sql.Statement) : List NamedCte :=
  match s.definingQuery? with
  | none => []
  | some q => q.ctes.filterMap namedCte?

def scopeOf (ctes : List NamedCte) : CteScope :=
  ctes.foldl (fun scope c => scope.declare c.name) []

namespace Builder

variable (guess : String → Kind)

/-- The registry after a reference to `r`, which may be a common table expression in sight. -/
def registerDependency (scope : CteScope) (nodes : Registry) (r : Reference) : Registry :=
  if scope.contains r.base then nodes.register r .cteView none
  else match nodes.kindOf? r.base with
    | some kind => nodes.register r kind none
    | none => nodes.registerInferred r (guess r.base)

/-- `target` reads from `dependency`. -/
def link (scope : CteScope) (target : String) (b : Builder) (dependency : Reference) : Builder :=
  let nodes := registerDependency guess scope b.nodes dependency
  match dependency.key? with
  | none => { b with nodes := nodes }
  | some base => ⟨nodes, b.edges.insert ⟨base, target⟩⟩

def linkAll (scope : CteScope) (target : String) (b : Builder) (rs : List Reference) : Builder :=
  rs.foldl (link guess scope target) b

def registerCte (b : Builder) (c : NamedCte) : Builder :=
  { b with nodes := b.nodes.register c.reference .cteView (some c.definition) }

def linkCte (scope : CteScope) (b : Builder) (c : NamedCte) : Builder :=
  linkAll guess scope c.name b (Lineage.dependencies scope [c.body])

/-- The common table expressions of a statement: all are registered, then each is linked. -/
def addCtes (b : Builder) (ctes : List NamedCte) : Builder :=
  ctes.foldl (linkCte guess (scopeOf ctes)) (ctes.foldl registerCte b)

/-- What a statement creates, linked to what the body of its query reads. -/
def addCreated (scope : CteScope) (definition : String) (b : Builder) (c : Created) : Builder :=
  match Reference.ofObjectName c.name with
  | none => b
  | some r =>
    let b := { b with nodes := b.nodes.register r c.kind (some definition) }
    match r.key?, c.query with
    | some target, some query =>
      linkAll guess scope target b (Lineage.bodyDependencies scope query)
    | _, _ => b

def step (b : Builder) (s : Sql.Statement) : Builder :=
  let ctes := namedCtes s
  let b := addCtes guess b ctes
  match created? s with
  | none => b
  | some c => addCreated guess (scopeOf ctes) s.text b c

def run (statements : List Sql.Statement) : Builder := statements.foldl (step guess) {}

end Builder
end SqlLineage
