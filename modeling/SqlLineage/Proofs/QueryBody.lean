import SqlLineage.Proofs.LexicalScope

/-! A query that binds no names of its own. To enter it puts an empty scope on the stack, and an
empty scope hides nothing, however deep the walk goes below it. The walk goes through all clauses of
the query, and those that the body leaves out have no tables in them; so the walk through the query
and the six walks through its body are the same. -/

namespace SqlLineage

namespace Sql

def Phrase.Silent (p : Phrase) : Prop := p.mentions = []

namespace Phrase

theorem silent_word (text : String) : (word text).Silent := rfl

theorem Silent.append {p q : Phrase} (hp : p.Silent) (hq : q.Silent) : (p ++ q).Silent := by
  have hmentions : (p ++ q).mentions = p.mentions ++ q.mentions := rfl
  rw [Silent, hmentions, hp, hq, List.append_nil]

theorem silent_joined (separator : String) {ps : List Phrase} (h : ∀ p ∈ ps, p.Silent) :
    (joined separator ps).Silent := by
  fun_induction joined separator ps with
  | case1 => exact silent_word ""
  | case2 p => exact h p List.mem_cons_self
  | case3 p q rest ih =>
    obtain ⟨hp, hrest⟩ := List.forall_mem_cons.1 h
    exact (hp.append (silent_word separator)).append (ih hrest)

theorem silent_words {ps : List Phrase} (h : ∀ p ∈ ps, p.Silent) : (words ps).Silent :=
  silent_joined " " fun p hp => h p (List.mem_filter.1 hp).1

end Phrase

theorem Lock.silent_phrase (l : Lock) : l.phrase.Silent :=
  Phrase.silent_words (by simp [Phrase.silent_word])

theorem Setting.silent_phrase (s : Setting) : s.phrase.Silent :=
  Phrase.silent_words (by simp [Phrase.silent_word])

theorem Setting.silent_clause (settings : List Setting) : (clause settings).Silent := by
  cases settings with
  | nil => rfl
  | cons s settings =>
    refine (Phrase.silent_word "SETTINGS ").append (Phrase.silent_joined ", " fun p hp => ?_)
    obtain ⟨s', _, rfl⟩ := List.mem_map.1 hp
    exact s'.silent_phrase

/-- Locks, forms, settings and formats add nothing to what the rest of a query mentions. -/
theorem Query.mentions_clauses (q : Query) : q.clauses.flatMap Phrase.mentions = q.readable := by
  have hlocks : (q.locks.map Lock.phrase).flatMap Phrase.mentions = [] := by
    refine List.flatMap_eq_nil_iff.2 fun p hp => ?_
    obtain ⟨l, _, rfl⟩ := List.mem_map.1 hp
    exact l.silent_phrase
  have hrest : [Phrase.word q.form, Setting.clause q.settings, Phrase.word q.format].flatMap
      Phrase.mentions = [] := by
    have hsettings : (Setting.clause q.settings).mentions = [] := Setting.silent_clause q.settings
    simp [Phrase.word, hsettings]
  rw [clauses, List.flatMap_append, List.flatMap_append, hlocks, hrest, List.append_nil,
    List.append_nil, readable]

end Sql

namespace Lineage

theorem Occurrence.hidden_under_empty (o : Occurrence) (outer : List (List String))
    (base : String) : (o.under ([] :: outer)).Hidden base ↔ (o.under outer).Hidden base := by
  constructor
  · rintro ⟨names, hnames, hbase⟩
    rcases List.mem_append.1 hnames with hinner | houter
    · exact ⟨names, List.mem_append_left outer hinner, hbase⟩
    · rcases List.mem_cons.1 houter with rfl | houter
      · exact absurd hbase List.not_mem_nil
      · exact ⟨names, List.mem_append_right o.around houter, hbase⟩
  · rintro ⟨names, hnames, hbase⟩
    rcases List.mem_append.1 hnames with hinner | houter
    · exact ⟨names, List.mem_append_left _ hinner, hbase⟩
    · exact ⟨names, List.mem_append_right o.around (List.mem_cons_of_mem [] houter), hbase⟩

theorem Occurrence.resolve_under_empty (scope : CteScope) (o : Occurrence)
    (outer : List (List String)) :
    (o.under ([] :: outer)).resolve scope = (o.under outer).resolve scope := by
  have hname : ∀ around, (o.under around).name = o.name := fun _ => rfl
  have hcalled : ∀ around, (o.under around).called = o.called := fun _ => rfl
  simp only [resolve, hname, hcalled, hidden_under_empty]

theorem referencesIn_enclose_empty (scope : CteScope) (outer : List (List String))
    (os : List Occurrence) :
    referencesIn scope (enclose ([] :: outer) os) = referencesIn scope (enclose outer os) := by
  have hresolve : (Occurrence.resolve scope ∘ fun o : Occurrence => o.under ([] :: outer)) =
      Occurrence.resolve scope ∘ fun o : Occurrence => o.under outer := by
    funext o
    exact o.resolve_under_empty scope outer
  rw [referencesIn, referencesIn, enclose, enclose, List.filterMap_map, List.filterMap_map,
    hresolve]

namespace Collector

theorem visitAll_enterQuery_nil (scope : CteScope) (c : Collector) (ms : List Sql.Mention) :
    (c.enterQuery []).visitAll scope ms = (c.visitAll scope ms).enterQuery [] := by
  have hstack : (c.enterQuery []).nestedScopes = [] :: c.nestedScopes := rfl
  rw [visitAll_eq, visitAll_eq, hstack, referencesIn_enclose_empty, foldl_record_enterQuery]

theorem visit_query_nil (scope : CteScope) (c : Collector) (inside : List Sql.Mention) :
    c.visit scope (.query [] inside) = c.visitAll scope inside := by
  rw [visit, visitAll_enterQuery_nil, leaveQuery_enterQuery]

theorem visit_mention (scope : CteScope) (c : Collector) {q : Sql.Query} (h : q.ctes = []) :
    c.visit scope q.mention = c.visitBody scope q := by
  have hmention : q.mention = .query [] q.readable := by
    rw [Sql.Query.mention, h, Sql.Query.mentions_clauses]
    rfl
  rw [hmention, visit_query_nil, visitBody_eq]

end Collector

/-- A query without a WITH clause of its own reads the same whether it is taken as a whole, with all
its clauses, or by the six clauses of its body: as lists, and from any state of the collector, which
is left in the same state. -/
theorem bodyDependencies_eq_dependencies (scope : CteScope) {q : Sql.Query} (h : q.ctes = []) :
    bodyDependencies scope q = dependencies scope [q.mention] ∧
      ∀ c : Collector, c.visitBody scope q = c.visit scope q.mention := by
  have hvisit : ∀ c : Collector, c.visitBody scope q = c.visit scope q.mention :=
    fun c => (c.visit_mention scope h).symm
  refine ⟨?_, hvisit⟩
  have hone : Collector.visitAll scope {} [q.mention] = Collector.visit scope {} q.mention := rfl
  rw [bodyDependencies, hvisit, dependencies, hone]

/-- Every clause is there. The body reads a common table expression in sight and a query that binds
a name for itself, the offset reads that name outside, and the lock names a table that is not
read. -/
def everyClause : Sql.Query :=
  { body := ⟨"SELECT 1 FROM c, (WITH x AS (SELECT 2) SELECT * FROM x)",
      [.table [.bare "c"] false, .query [.bare "x"] [.table [.bare "x"] false]]⟩
    orderBy := ⟨"ORDER BY (SELECT 3 FROM o)", [.query [] [.table [.bare "o"] false]]⟩
    limit := ⟨"LIMIT (SELECT 4 FROM s.t)", [.query [] [.table [.bare "s", .bare "t"] false]]⟩
    limitBy := ⟨"BY (SELECT 5 FROM o)", [.query [] [.table [.bare "o"] false]]⟩
    offset := ⟨"OFFSET (SELECT 6 FROM x)", [.query [] [.table [.bare "x"] false]]⟩
    fetch := "FETCH FIRST 7 ROWS ONLY"
    locks := [⟨"UPDATE", some [.bare "locked"], "NOWAIT"⟩]
    form := "FOR BROWSE"
    settings := [⟨.bare "threads", "8"⟩]
    format := "FORMAT NULL" }

theorem bodyDependencies_eq_dependencies_everyClause :
    everyClause.ctes = [] ∧
      everyClause.text = "SELECT 1 FROM c, (WITH x AS (SELECT 2) SELECT * FROM x) " ++
        "ORDER BY (SELECT 3 FROM o) LIMIT (SELECT 4 FROM s.t) OFFSET (SELECT 6 FROM x) " ++
        "BY (SELECT 5 FROM o) SETTINGS threads = 8 FETCH FIRST 7 ROWS ONLY " ++
        "FOR UPDATE OF locked NOWAIT FOR BROWSE FORMAT NULL" ∧
      bodyDependencies ["c"] everyClause = [⟨"c", none, "c"⟩, ⟨"o", none, "o"⟩,
        ⟨"s.t", some "s", "t"⟩, ⟨"x", none, "x"⟩] ∧
      bodyDependencies ["c"] everyClause = dependencies ["c"] [everyClause.mention] :=
  ⟨rfl, by decide +kernel, by decide +kernel, (bodyDependencies_eq_dependencies ["c"] rfl).1⟩

end Lineage
end SqlLineage
