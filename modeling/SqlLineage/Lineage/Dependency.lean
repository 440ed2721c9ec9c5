import SqlLineage.Reference
import SqlLineage.Sql.Statement

/-! The objects that a stretch of SQL reads from. A name that a WITH clause binds is no object
inside the query of that clause, and stays one everywhere else. -/

namespace SqlLineage

/-- The names of the common table expressions that are in sight, in the order of declaration. -/
abbrev CteScope := List String

namespace CteScope

def declare (scope : CteScope) (name : String) : CteScope :=
  if scope.contains name then scope else scope ++ [name]

end CteScope

/-- The base name of a common table expression. -/
def cteName? (name : Sql.Ident) : Option String := (Reference.bare name.value).map Reference.base

namespace Lineage

/-- What has been found so far on the way through a stretch of SQL. -/
structure Collector where
  /-- The names that the WITH clause of each query around the current place binds, the innermost
  query first. -/
  nestedScopes : List (List String) := []
  /-- The full names that are found already. -/
  seen : List String := []
  dependencies : List Reference := []

namespace Collector

def isLocallyBound (c : Collector) (name : String) : Bool :=
  c.nestedScopes.any fun names => names.contains name

/-- Only the first reference of a full name is kept. -/
def record (c : Collector) (r : Reference) : Collector :=
  if c.seen.contains r.fullName then c
  else { c with seen := r.fullName :: c.seen, dependencies := c.dependencies ++ [r] }

def enterQuery (c : Collector) (ctes : List Sql.Ident) : Collector :=
  { c with nestedScopes := ctes.filterMap cteName? :: c.nestedScopes }

def leaveQuery (c : Collector) : Collector := { c with nestedScopes := c.nestedScopes.tail }

/-- A table of a FROM clause. An unqualified name that a query around it binds is no object, and one
that is in sight as a common table expression refers to that. -/
def visitTable (scope : CteScope) (c : Collector) (name : Sql.ObjectName) : Collector :=
  match Reference.ofObjectName name with
  | none => c
  | some r =>
    if name.length = 1 && c.isLocallyBound r.base then c
    else if name.length = 1 && scope.contains r.base then
      match Reference.bare r.base with
      | none => c
      | some cte => c.record cte
    else c.record r

mutual

def visit (scope : CteScope) (c : Collector) : Sql.Mention → Collector
  | .table _ true => c
  | .table name false => c.visitTable scope name
  | .query ctes inside => (visitAll scope (c.enterQuery ctes) inside).leaveQuery

def visitAll (scope : CteScope) (c : Collector) : List Sql.Mention → Collector
  | [] => c
  | m :: rest => visitAll scope (visit scope c m) rest

end

/-- The clauses of a query that may read from something, one after the other. -/
def visitBody (scope : CteScope) (c : Collector) (query : Sql.Query) : Collector :=
  let c := c.visitAll scope query.body.mentions
  let c := c.visitAll scope query.orderBy.mentions
  let c := c.visitAll scope query.limit.mentions
  let c := c.visitAll scope query.limitBy.mentions
  let c := c.visitAll scope query.offset.mentions
  c.visitAll scope query.fetch.mentions

end Collector

/-- What the mentioned queries and tables read from. -/
def dependencies (scope : CteScope) (mentions : List Sql.Mention) : List Reference :=
  (Collector.visitAll scope {} mentions).dependencies

/-- What a query reads from apart from its own WITH clause, whose names `scope` holds. -/
def bodyDependencies (scope : CteScope) (query : Sql.Query) : List Reference :=
  (Collector.visitBody scope {} query).dependencies

end Lineage
end SqlLineage
