import SqlLineage.Lineage.Builder
import SqlLineage.Proofs.LexicalScope

/-! A run taken apart. What a statement does to the registry and what it does to the edges are two
lists that depend on the statement alone; a run goes through both, each on its own. -/

namespace SqlLineage

def cteReads (s : Sql.Statement) (c : NamedCte) : List Reference :=
  Lineage.dependencies (scopeOf (namedCtes s)) [c.body]

structure Creation where
  reference : Reference
  kind : Kind
  reads : List Reference

def Created.reads (s : Sql.Statement) (c : Created) : List Reference :=
  match c.query with
  | none => []
  | some query => Lineage.bodyDependencies (scopeOf (namedCtes s)) query

def creation? (s : Sql.Statement) : Option Creation :=
  (created? s).bind fun c =>
    (Reference.ofObjectName c.name).map fun r => ⟨r, c.kind, c.reads s⟩

/-- `s` reads `r`, in a common table expression or for the object that it creates. -/
def Reads (s : Sql.Statement) (r : Reference) : Prop :=
  (∃ c ∈ namedCtes s, r ∈ cteReads s c) ∨ ∃ m, creation? s = some m ∧ r ∈ m.reads

def edgesInto (target : String) (rs : List Reference) : List Edge :=
  rs.map fun r => ⟨r.base, target⟩

/-- The edges of a statement in the order in which they are found, with repetitions and loops. -/
def edgesOf (s : Sql.Statement) : List Edge :=
  (namedCtes s).flatMap (fun c => edgesInto c.name (cteReads s c)) ++
    (creation? s).toList.flatMap fun m => edgesInto m.reference.base m.reads

inductive Sighting
  | declared (cte : NamedCte)
  | created (reference : Reference) (kind : Kind) (definition : String)
  /-- A query reads it, with the names of `scope` in sight as common table expressions. -/
  | read (scope : CteScope) (reference : Reference)

namespace Sighting

def reference : Sighting → Reference
  | declared c => c.reference
  | created r _ _ => r
  | read _ r => r

def apply (guess : String → Kind) (nodes : Registry) : Sighting → Registry
  | declared c => nodes.register c.reference .cteView (some c.definition)
  | created r kind definition => nodes.register r kind (some definition)
  | read scope r => Builder.registerDependency guess scope nodes r

end Sighting

def sightings (s : Sql.Statement) : List Sighting :=
  (namedCtes s).map .declared ++
    (namedCtes s).flatMap (fun c => (cteReads s c).map (.read (scopeOf (namedCtes s)))) ++
    (creation? s).toList.flatMap fun m =>
      .created m.reference m.kind s.text :: m.reads.map (.read (scopeOf (namedCtes s)))

namespace Builder

variable (guess : String → Kind)

def advance (b : Builder) (seen : List Sighting) (edges : List Edge) : Builder :=
  ⟨seen.foldl (Sighting.apply guess) b.nodes, edges.foldl EdgeSet.insert b.edges⟩

theorem advance_advance (b : Builder) (seen seen' : List Sighting) (edges edges' : List Edge) :
    (b.advance guess seen edges).advance guess seen' edges' =
      b.advance guess (seen ++ seen') (edges ++ edges') := by
  simp only [advance, List.foldl_append]

theorem linkAll_eq (scope : CteScope) (target : String) (rs : List Reference)
    (hrs : ∀ r ∈ rs, r.base ≠ "") (b : Builder) :
    linkAll guess scope target b rs =
      b.advance guess (rs.map (.read scope)) (edgesInto target rs) := by
  induction rs generalizing b with
  | nil => rfl
  | cons r rs ih =>
    have hlink : link guess scope target b r =
        b.advance guess [.read scope r] [⟨r.base, target⟩] := by
      rw [link, Reference.key?_eq_some (hrs r List.mem_cons_self)]
      rfl
    rw [linkAll, List.foldl_cons, ← linkAll, hlink,
      ih fun s hs => hrs s (List.mem_cons_of_mem r hs), advance_advance]
    rfl

theorem foldl_registerCte (ctes : List NamedCte) (b : Builder) :
    ctes.foldl registerCte b = b.advance guess (ctes.map .declared) [] := by
  induction ctes generalizing b with
  | nil => rfl
  | cons c ctes ih =>
    rw [List.foldl_cons, ih]
    rfl

theorem foldl_linkCte (s : Sql.Statement) (ctes : List NamedCte) (b : Builder) :
    ctes.foldl (linkCte guess (scopeOf (namedCtes s))) b =
      b.advance guess
        (ctes.flatMap fun c => (cteReads s c).map (.read (scopeOf (namedCtes s))))
        (ctes.flatMap fun c => edgesInto c.name (cteReads s c)) := by
  induction ctes generalizing b with
  | nil => rfl
  | cons c ctes ih =>
    have hreads : ∀ r ∈ cteReads s c, r.base ≠ "" := fun _ =>
      Lineage.base_ne_of_mem_dependencies
    rw [List.foldl_cons, ih, linkCte, ← cteReads, linkAll_eq guess _ _ _ hreads, advance_advance]
    rfl

theorem addCreated_eq (s : Sql.Statement) (c : Created) (r : Reference)
    (hr : Reference.ofObjectName c.name = some r) (b : Builder) :
    addCreated guess (scopeOf (namedCtes s)) s.text b c =
      b.advance guess
        (.created r c.kind s.text :: (c.reads s).map (.read (scopeOf (namedCtes s))))
        (edgesInto r.base (c.reads s)) := by
  have hkey : r.key? = some r.base := Reference.key?_eq_some (Reference.ofObjectName_base_ne hr)
  rw [addCreated, hr]
  cases hquery : c.query with
  | none => simp only [hkey, hquery, Created.reads]; rfl
  | some query =>
    have hreads : ∀ d ∈ Lineage.bodyDependencies (scopeOf (namedCtes s)) query, d.base ≠ "" :=
      fun _ => Lineage.base_ne_of_mem_bodyDependencies
    simp only [hkey, hquery, Created.reads]
    rw [linkAll_eq guess _ _ _ hreads]
    rfl

theorem step_eq_advance (b : Builder) (s : Sql.Statement) :
    step guess b s = b.advance guess (sightings s) (edgesOf s) := by
  have hctes : addCtes guess b (namedCtes s) = b.advance guess
      ((namedCtes s).map .declared ++
        (namedCtes s).flatMap fun c => (cteReads s c).map (.read (scopeOf (namedCtes s))))
      ((namedCtes s).flatMap fun c => edgesInto c.name (cteReads s c)) := by
    rw [addCtes, foldl_registerCte guess, foldl_linkCte, advance_advance, List.nil_append]
  simp only [step, sightings, edgesOf, creation?, hctes]
  cases created? s with
  | none => simp
  | some c =>
    cases hr : Reference.ofObjectName c.name with
    | none => simp [addCreated, hr]
    | some r => simp [addCreated_eq guess s c r hr, hr, advance_advance]

/-- A run is the looks at names of all its statements and, apart from these, all their edges. -/
theorem foldl_step_eq_advance (ss : List Sql.Statement) (b : Builder) :
    ss.foldl (step guess) b = b.advance guess (ss.flatMap sightings) (ss.flatMap edgesOf) := by
  induction ss generalizing b with
  | nil => rfl
  | cons s ss ih =>
    rw [List.foldl_cons, ih, step_eq_advance, advance_advance, List.flatMap_cons,
      List.flatMap_cons]

end Builder
end SqlLineage
