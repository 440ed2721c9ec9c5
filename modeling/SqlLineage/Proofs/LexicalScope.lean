import SqlLineage.Lineage.Dependency
import SqlLineage.Proofs.Reference

/-! The collector finds what lexical scoping says. A table counts as hidden by the WITH clauses of
the queries around it, and by those alone; the stack of the collector always holds just these. -/

namespace SqlLineage

/-- All that the clauses mention in which a query may read from something. -/
def Sql.Query.readable (q : Sql.Query) : List Sql.Mention :=
  [q.body, q.orderBy, q.limit, q.limitBy, q.offset, q.fetch].flatMap Sql.Phrase.mentions

namespace Lineage

/-- A table of a FROM clause with the names that the queries around it bind, the innermost query
first. -/
structure Occurrence where
  name : Sql.ObjectName
  called : Bool
  around : List (List String)

namespace Occurrence

def under (o : Occurrence) (outer : List (List String)) : Occurrence :=
  { o with around := o.around ++ outer }

theorem under_nil (o : Occurrence) : o.under [] = o := by
  simp only [under, List.append_nil]

theorem under_under (o : Occurrence) (inner outer : List (List String)) :
    (o.under inner).under outer = o.under (inner ++ outer) := by
  simp only [under, List.append_assoc]

def Hidden (o : Occurrence) (base : String) : Prop := ∃ names ∈ o.around, base ∈ names

instance (o : Occurrence) (base : String) : Decidable (o.Hidden base) :=
  inferInstanceAs (Decidable (∃ names ∈ o.around, base ∈ names))

/-- What the table refers to, if that is an object or a common table expression of `scope`. -/
def resolve (scope : CteScope) (o : Occurrence) : Option Reference :=
  if o.called then none
  else match Reference.ofObjectName o.name with
    | none => none
    | some r =>
      if o.name.length = 1 ∧ o.Hidden r.base then none
      else if o.name.length = 1 ∧ r.base ∈ scope then Reference.bare r.base
      else some r

end Occurrence

def enclose (outer : List (List String)) (os : List Occurrence) : List Occurrence :=
  os.map fun o => o.under outer

theorem enclose_nil (os : List Occurrence) : enclose [] os = os := by
  simp only [enclose, Occurrence.under_nil, List.map_id_fun', id_eq]

theorem enclose_enclose (inner outer : List (List String)) (os : List Occurrence) :
    enclose outer (enclose inner os) = enclose (inner ++ outer) os := by
  simp only [enclose, List.map_map, Function.comp_def, Occurrence.under_under]

theorem enclose_append (outer : List (List String)) (os os' : List Occurrence) :
    enclose outer (os ++ os') = enclose outer os ++ enclose outer os' := List.map_append

mutual

/-- The tables of one mention in the order of the text. A query stands around all that is in it. -/
def occurrencesOf : Sql.Mention → List Occurrence
  | .table name called => [⟨name, called, []⟩]
  | .query ctes inside => enclose [ctes.filterMap cteName?] (occurrences inside)

def occurrences : List Sql.Mention → List Occurrence
  | [] => []
  | m :: rest => occurrencesOf m ++ occurrences rest

end

theorem occurrences_append (before after : List Sql.Mention) :
    occurrences (before ++ after) = occurrences before ++ occurrences after := by
  induction before with
  | nil => rfl
  | cons m rest ih => simp only [List.cons_append, occurrences, ih, List.append_assoc]

def referencesIn (scope : CteScope) (os : List Occurrence) : List Reference :=
  os.filterMap (Occurrence.resolve scope)

theorem referencesIn_append (scope : CteScope) (os os' : List Occurrence) :
    referencesIn scope (os ++ os') = referencesIn scope os ++ referencesIn scope os' :=
  List.filterMap_append

def firstByName (rs : List Reference) : List Reference :=
  rs.eraseDupsBy fun r first => r.fullName == first.fullName

namespace Collector

theorem leaveQuery_enterQuery (c : Collector) (ctes : List Sql.Ident) :
    (c.enterQuery ctes).leaveQuery = c := rfl

theorem record_nestedScopes (c : Collector) (r : Reference) :
    (c.record r).nestedScopes = c.nestedScopes := by
  unfold record
  split <;> rfl

theorem enterQuery_record (c : Collector) (ctes : List Sql.Ident) (r : Reference) :
    (c.enterQuery ctes).record r = (c.record r).enterQuery ctes := by
  unfold record enterQuery
  split <;> rfl

theorem foldl_record_nestedScopes (rs : List Reference) (c : Collector) :
    (rs.foldl record c).nestedScopes = c.nestedScopes := by
  induction rs generalizing c with
  | nil => rfl
  | cons r rs ih => rw [List.foldl_cons, ih, record_nestedScopes]

theorem foldl_record_enterQuery (rs : List Reference) (c : Collector) (ctes : List Sql.Ident) :
    rs.foldl record (c.enterQuery ctes) = (rs.foldl record c).enterQuery ctes := by
  induction rs generalizing c with
  | nil => rfl
  | cons r rs ih => rw [List.foldl_cons, List.foldl_cons, enterQuery_record, ih]

theorem foldl_record_dependencies (rs : List Reference) (c : Collector) :
    (rs.foldl record c).dependencies =
      c.dependencies ++ firstByName (rs.filter fun r => !c.seen.contains r.fullName) := by
  induction rs generalizing c with
  | nil => simp [firstByName]
  | cons r rs ih =>
    rw [List.foldl_cons, ih]
    cases hr : c.seen.contains r.fullName with
    | true =>
      rw [List.filter_cons_of_neg (by rw [hr]; decide), record, if_pos hr]
    | false =>
      -- from here on the full name of `r` is taken, which is how duplicates of the head go
      have hrecord : c.record r =
          { c with seen := r.fullName :: c.seen, dependencies := c.dependencies ++ [r] } := by
        rw [record, if_neg (by rw [hr]; decide)]
      have hfilter : rs.filter (fun s => !(r.fullName :: c.seen).contains s.fullName) =
          (rs.filter fun s => !c.seen.contains s.fullName).filter
            fun s => (s.fullName == r.fullName) = false := by
        rw [List.filter_filter]
        refine List.filter_congr fun s _ => ?_
        rw [List.contains_cons]
        cases s.fullName == r.fullName <;> simp
      rw [List.filter_cons_of_pos (by rw [hr]; decide), hrecord]
      simp only [firstByName, List.eraseDupsBy_cons, hfilter, List.append_assoc,
        List.singleton_append]

theorem mem_foldl_record {rs : List Reference} {c : Collector} {r : Reference}
    (h : r ∈ (rs.foldl record c).dependencies) : r ∈ c.dependencies ∨ r ∈ rs := by
  induction rs generalizing c with
  | nil => exact .inl h
  | cons s rs ih =>
    rcases ih h with hr | hr
    · unfold record at hr
      split at hr
      · exact .inl hr
      · rcases List.mem_append.1 hr with hr | hr
        · exact .inl hr
        · exact .inr (List.mem_cons.2 (.inl (List.mem_singleton.1 hr)))
    · exact .inr (List.mem_cons_of_mem s hr)

theorem isLocallyBound_iff (c : Collector) (base : String) :
    c.isLocallyBound base = true ↔ ∃ names ∈ c.nestedScopes, base ∈ names := by
  simp [isLocallyBound]

theorem visitTable_eq (scope : CteScope) (c : Collector) (name : Sql.ObjectName) :
    c.visitTable scope name =
      (Occurrence.resolve scope ⟨name, false, c.nestedScopes⟩).toList.foldl record c := by
  unfold visitTable Occurrence.resolve
  cases Reference.ofObjectName name with
  | none => rfl
  | some r =>
    have hbound : (name.length = 1 ∧ Occurrence.Hidden ⟨name, false, c.nestedScopes⟩ r.base) ↔
        (name.length = 1 && c.isLocallyBound r.base) = true := by
      simp [Occurrence.Hidden, isLocallyBound_iff]
    have hscope : (name.length = 1 ∧ r.base ∈ scope) ↔
        (name.length = 1 && scope.contains r.base) = true := by
      simp
    simp only [Bool.false_eq_true, if_false, hbound, hscope]
    split
    · rfl
    · split
      · cases Reference.bare r.base <;> rfl
      · rfl

mutual

theorem visit_eq (scope : CteScope) (c : Collector) (m : Sql.Mention) :
    c.visit scope m =
      (referencesIn scope (enclose c.nestedScopes (occurrencesOf m))).foldl record c := by
  cases m with
  | table name called =>
    cases called with
    | true => rfl
    | false => rw [visit, visitTable_eq]; rfl
  | query ctes inside =>
    -- inside, the stack holds one scope more: the one that the query puts around its tables
    have hinside := visitAll_eq scope (c.enterQuery ctes) inside
    rw [visit, hinside, foldl_record_enterQuery, leaveQuery_enterQuery, occurrencesOf,
      enclose_enclose]
    rfl

theorem visitAll_eq (scope : CteScope) (c : Collector) (ms : List Sql.Mention) :
    c.visitAll scope ms =
      (referencesIn scope (enclose c.nestedScopes (occurrences ms))).foldl record c := by
  cases ms with
  | nil => rfl
  | cons m rest =>
    have hm := visit_eq scope c m
    -- the rest is visited under the same queries as `m`
    have hstack : (c.visit scope m).nestedScopes = c.nestedScopes := by
      rw [hm, foldl_record_nestedScopes]
    rw [visitAll, visitAll_eq scope (c.visit scope m) rest, hstack, hm, occurrences,
      enclose_append, referencesIn_append, List.foldl_append]

end

theorem visitAll_nestedScopes (scope : CteScope) (c : Collector) (ms : List Sql.Mention) :
    (c.visitAll scope ms).nestedScopes = c.nestedScopes := by
  rw [visitAll_eq, foldl_record_nestedScopes]

theorem visitAll_append (scope : CteScope) (c : Collector) (ms ms' : List Sql.Mention) :
    c.visitAll scope (ms ++ ms') = (c.visitAll scope ms).visitAll scope ms' := by
  induction ms generalizing c with
  | nil => rfl
  | cons m ms ih =>
    rw [List.cons_append, visitAll, visitAll]
    exact ih (c.visit scope m)

theorem visitBody_eq (scope : CteScope) (c : Collector) (q : Sql.Query) :
    c.visitBody scope q = c.visitAll scope q.readable := by
  simp only [visitBody, Sql.Query.readable, List.flatMap_cons, List.flatMap_nil, List.append_nil,
    visitAll_append]

end Collector

theorem bodyDependencies_eq (scope : CteScope) (q : Sql.Query) :
    bodyDependencies scope q = dependencies scope q.readable := by
  rw [bodyDependencies, Collector.visitBody_eq, dependencies]

theorem dependencies_eq (scope : CteScope) (fragment : List Sql.Mention) :
    dependencies scope fragment = firstByName (referencesIn scope (occurrences fragment)) := by
  have hall : (referencesIn scope (occurrences fragment)).filter
      (fun r => !([] : List String).contains r.fullName) =
        referencesIn scope (occurrences fragment) := List.filter_eq_self.2 fun _ _ => rfl
  rw [dependencies, Collector.visitAll_eq, Collector.foldl_record_dependencies, enclose_nil, hall,
    List.nil_append]

theorem Occurrence.resolve_base_ne {scope : CteScope} {o : Occurrence} {r : Reference}
    (h : o.resolve scope = some r) : r.base ≠ "" := by
  unfold resolve at h
  split at h
  · cases h
  · split at h
    · cases h
    · rename_i s hs
      split at h
      · cases h
      · split at h
        · exact Reference.bare_base_ne h
        · cases h
          exact Reference.ofObjectName_base_ne hs

theorem base_ne_of_mem_dependencies {scope : CteScope} {ms : List Sql.Mention} {r : Reference}
    (h : r ∈ dependencies scope ms) : r.base ≠ "" := by
  rw [dependencies, Collector.visitAll_eq] at h
  rcases Collector.mem_foldl_record h with hnil | hr
  · cases hnil
  · obtain ⟨o, _, ho⟩ := List.mem_filterMap.1 hr
    exact Occurrence.resolve_base_ne ho

theorem base_ne_of_mem_bodyDependencies {scope : CteScope} {q : Sql.Query} {r : Reference}
    (h : r ∈ bodyDependencies scope q) : r.base ≠ "" := by
  rw [bodyDependencies_eq] at h
  exact base_ne_of_mem_dependencies h

theorem dependencies_congr {scope scope' : CteScope} (h : ∀ name, name ∈ scope ↔ name ∈ scope')
    (fragment : List Sql.Mention) : dependencies scope fragment = dependencies scope' fragment := by
  have hresolve : Occurrence.resolve scope = Occurrence.resolve scope' := by
    funext o
    simp only [Occurrence.resolve, h]
  rw [dependencies_eq, dependencies_eq, referencesIn, referencesIn, hresolve]

/-- Names are resolved lexically: the collector gives the first reference of each full name among
the tables of the fragment, each resolved under the queries around it. It leaves its stack as it
found it, and what a nested WITH clause binds has no effect on the tables before and after. -/
theorem dependencies_lexical (scope : CteScope) (fragment : List Sql.Mention) :
    dependencies scope fragment = firstByName (referencesIn scope (occurrences fragment)) ∧
      (∀ c : Collector, (c.visitAll scope fragment).nestedScopes = c.nestedScopes) ∧
      ∀ (before inside after : List Sql.Mention) (ctes : List Sql.Ident),
        dependencies scope (before ++ .query ctes inside :: after) =
          firstByName (referencesIn scope (occurrences before) ++
            referencesIn scope (enclose [ctes.filterMap cteName?] (occurrences inside)) ++
            referencesIn scope (occurrences after)) := by
  refine ⟨dependencies_eq scope fragment, fun c => c.visitAll_nestedScopes scope fragment, ?_⟩
  intro before inside after ctes
  rw [dependencies_eq, occurrences_append, occurrences, occurrencesOf, referencesIn_append,
    referencesIn_append, List.append_assoc]

end Lineage
end SqlLineage
