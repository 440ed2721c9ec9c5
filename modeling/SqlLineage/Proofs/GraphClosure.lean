import SqlLineage.Graph.Basic
import SqlLineage.Proofs.RunEdges
import SqlLineage.Proofs.RunNodes

/-! Which names of the edges of a graph are names of nodes. A common table expression is linked
under its name and registered under that name stripped of quotes once more, so its edges may lead to
a name that no node has; this is the only way in which an edge may lead out of the graph. -/

namespace SqlLineage

def Graph.Closed (g : Graph) : Prop :=
  ∀ e ∈ g.edges, e.dependency ∈ g.nodes.names ∧ e.dependent ∈ g.nodes.names

instance (g : Graph) : Decidable g.Closed :=
  inferInstanceAs
    (Decidable (∀ e ∈ g.edges, e.dependency ∈ g.nodes.names ∧ e.dependent ∈ g.nodes.names))

namespace Builder

variable (guess : String → Kind) (ss : List Sql.Statement)

theorem mem_run_edges (e : Edge) :
    e ∈ (run guess ss).edges ↔ (∃ s ∈ ss, e ∈ edgesOf s) ∧ e.dependency ≠ e.dependent := by
  rw [run_edges_eq, EdgeSet.mem_simple, List.mem_flatMap]

theorem dependency_mem_names {e : Edge} (h : e ∈ (run guess ss).edges) :
    e.dependency ∈ (run guess ss).nodes.names := by
  obtain ⟨⟨s, hs, he⟩, _⟩ := (mem_run_edges guess ss e).1 h
  refine (mem_names_run guess ss _).2 ⟨s, hs, .inr (.inr ((links_iff s _).2 ?_))⟩
  rcases (mem_edgesOf s e).1 he with ⟨c, hc, _, r, hr, hbase⟩ | ⟨m, hm, _, r, hr, hbase⟩
  · exact ⟨r, .inl ⟨c, hc, hr⟩, hbase⟩
  · exact ⟨r, .inr ⟨m, hm, hr⟩, hbase⟩

theorem dependent_mem_names_or {e : Edge} (h : e ∈ (run guess ss).edges) :
    e.dependent ∈ (run guess ss).nodes.names ∨
      ∃ s ∈ ss, ∃ c ∈ namedCtes s, e.dependent = c.name ∧ c.reference.base ≠ c.name ∧
        ∃ r ∈ cteReads s c, r.base ≠ c.name := by
  obtain ⟨⟨s, hs, he⟩, hloop⟩ := (mem_run_edges guess ss e).1 h
  rcases (mem_edgesOf s e).1 he with ⟨c, hc, htarget, r, hr, hbase⟩ | ⟨m, hm, htarget, _⟩
  · by_cases hname : c.reference.base = c.name
    · have hdeclared := (exists_declared_iff s e.dependent).1 ⟨c, hc, by rw [hname, htarget]⟩
      exact .inl ((mem_names_run guess ss _).2 ⟨s, hs, .inl (.inl hdeclared)⟩)
    · -- no loop is an edge, so the expression reads something besides its own name
      refine .inr ⟨s, hs, c, hc, htarget, hname, r, hr, ?_⟩
      rwa [hbase, ← htarget]
  · have hcreates : Creates s e.dependent m.kind :=
      (creates_iff s _ _).2 ⟨m, hm, htarget.symm, rfl⟩
    exact .inl ((mem_names_run guess ss _).2 ⟨s, hs, .inr (.inl ⟨m.kind, hcreates⟩)⟩)

theorem name_mem_names_of_closed {s : Sql.Statement} {c : NamedCte} {r : Reference}
    (hclosed : ∀ e ∈ (run guess ss).edges, e.dependent ∈ (run guess ss).nodes.names)
    (hs : s ∈ ss) (hc : c ∈ namedCtes s) (hr : r ∈ cteReads s c) (hne : r.base ≠ c.name) :
    c.name ∈ (run guess ss).nodes.names := by
  have hedge : (⟨r.base, c.name⟩ : Edge) ∈ edgesOf s :=
    (mem_edgesOf s _).2 (.inl ⟨c, hc, rfl, r, hr, rfl⟩)
  exact hclosed ⟨r.base, c.name⟩ ((mem_run_edges guess ss _).2 ⟨⟨s, hs, hedge⟩, hne⟩)

end Builder

theorem lineage_eq_ok {dialect : Dialect} {guess : String → Kind} {sql : String} {g : Graph}
    (h : lineage dialect guess sql = .ok g) :
    ∃ script, Script.parse dialect sql = .ok script ∧ g = Graph.ofParsed guess script := by
  unfold lineage at h
  cases hparse : Script.parse dialect sql with
  | error e =>
    rw [hparse] at h
    cases h
  | ok script =>
    rw [hparse] at h
    cases h
    exact ⟨script, rfl, rfl⟩

/-- When the graph of a script is closed. Edges always start at nodes; they all end at nodes just if
every common table expression that reads something, and whose name changes when it is stripped of
quotes once more, bears a name that the script registers in some other way. -/
theorem lineage_closed_iff {dialect : Dialect} {guess : String → Kind} {sql : String} {g : Graph}
    (h : lineage dialect guess sql = .ok g) :
    ∃ script, Script.parse dialect sql = .ok script ∧
      (∀ e ∈ g.edges, e.dependency ∈ g.nodes.names) ∧
      (g.Closed ↔ ∀ s ∈ script.statements, ∀ c ∈ namedCtes s,
        c.reference.base ≠ c.name → (∃ r ∈ cteReads s c, r.base ≠ c.name) →
        ∃ s' ∈ script.statements, Registers s' c.name) := by
  obtain ⟨script, hparse, rfl⟩ := lineage_eq_ok h
  have hstart : ∀ e ∈ (Builder.run guess script.statements).edges,
      e.dependency ∈ (Builder.run guess script.statements).nodes.names :=
    fun _ he => Builder.dependency_mem_names guess script.statements he
  refine ⟨script, hparse, hstart, ?_⟩
  constructor
  · rintro hclosed s hs c hc _ ⟨r, hr, hne⟩
    rw [← Builder.mem_names_run guess]
    exact Builder.name_mem_names_of_closed guess script.statements
      (fun e he => (hclosed e he).2) hs hc hr hne
  · intro hregisters e he
    refine ⟨hstart e he, ?_⟩
    rcases Builder.dependent_mem_names_or guess script.statements he with
      hmem | ⟨s, hs, c, hc, htarget, hname, hreads⟩
    · exact hmem
    · obtain ⟨s', hs', hs'c⟩ := hregisters s hs c hc hname hreads
      refine (Builder.mem_names_run guess script.statements e.dependent).2 ⟨s', hs', ?_⟩
      rwa [htarget]

/-- A common table expression that is registered as `x` and linked as ` x `, a name which the script
also gives to a table: the graph is closed, and it is the table that makes it so. -/
theorem lineage_closed_iff_shared_name :
    lineage .generic (Guess.kindOf .table [])
        "WITH \"' x '\" AS (SELECT * FROM t) SELECT 1; CREATE TABLE \"' x '\" (a INT)" =
      .ok ⟨[⟨"t", " x "⟩],
        [(" x ", ⟨.table, none, "\"' x '\"", some "CREATE TABLE \"' x '\" (a INT)", false⟩),
          ("t", ⟨.table, none, "t", none, true⟩),
          ("x", ⟨.cteView, none, "x", some "\"' x '\" AS (SELECT * FROM t)", false⟩)], [], []⟩ ∧
    ∃ script, Script.parse .generic
        "WITH \"' x '\" AS (SELECT * FROM t) SELECT 1; CREATE TABLE \"' x '\" (a INT)" =
      .ok script ∧ ∀ s ∈ script.statements, ∀ c ∈ namedCtes s,
        c.reference.base ≠ c.name → (∃ r ∈ cteReads s c, r.base ≠ c.name) →
        ∃ s' ∈ script.statements, Registers s' c.name := by
  have h : lineage .generic (Guess.kindOf .table [])
        "WITH \"' x '\" AS (SELECT * FROM t) SELECT 1; CREATE TABLE \"' x '\" (a INT)" =
      .ok ⟨[⟨"t", " x "⟩],
        [(" x ", ⟨.table, none, "\"' x '\"", some "CREATE TABLE \"' x '\" (a INT)", false⟩),
          ("t", ⟨.table, none, "t", none, true⟩),
          ("x", ⟨.cteView, none, "x", some "\"' x '\" AS (SELECT * FROM t)", false⟩)], [], []⟩ := by
    decide +kernel
  obtain ⟨script, hparse, _, hiff⟩ := lineage_closed_iff h
  exact ⟨h, script, hparse, hiff.1 (by decide +kernel)⟩

/-- Without the table the edge leads to a name that no node has. -/
theorem lineage_not_always_closed :
    ¬ ∀ (dialect : Dialect) (guess : String → Kind) (sql : String) (g : Graph),
      lineage dialect guess sql = .ok g → g.Closed := by
  intro hclosed
  have h : lineage .generic (Guess.kindOf .table [])
        "WITH \"' x '\" AS (SELECT * FROM t) SELECT 1" =
      .ok ⟨[⟨"t", " x "⟩],
        [("t", ⟨.table, none, "t", none, true⟩),
          ("x", ⟨.cteView, none, "x", some "\"' x '\" AS (SELECT * FROM t)", false⟩)], [], []⟩ := by
    decide +kernel
  exact absurd (hclosed _ _ _ _ h) (by decide +kernel)

end SqlLineage
