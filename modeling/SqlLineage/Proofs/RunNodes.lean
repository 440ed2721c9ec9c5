import SqlLineage.Proofs.NameAccount

/-! The nodes of a whole run, told from its statements: which names there are, and what each is.
None of this depends on the order of the statements. -/

namespace SqlLineage

namespace Sql.Cte

/-- The name under which a common table expression is in sight: what is written, without the blanks
and the quotes around it. -/
def localName (cte : Sql.Cte) : String := String.ofList (stripQuotes cte.name.value.toList)

/-- The name of its node, for which blanks and quotes are taken off once more. -/
def nodeName (cte : Sql.Cte) : String := String.ofList (stripQuotes cte.localName.toList)

def named (cte : Sql.Cte) : NamedCte :=
  ⟨cte.localName, ⟨cte.nodeName, none, cte.nodeName⟩, cte.text, cte.body⟩

end Sql.Cte

/-- The query that feeds `s` has `cte` in its WITH clause, under a name that is not empty. -/
def Declares (s : Sql.Statement) (cte : Sql.Cte) : Prop :=
  (∃ q, s.definingQuery? = some q ∧ cte ∈ q.ctes) ∧ cte.nodeName ≠ ""

def InSight (s : Sql.Statement) (scope : CteScope) : Prop :=
  ∀ name, name ∈ scope ↔ ∃ cte, Declares s cte ∧ cte.localName = name

/-- `s` creates an object from the rows of a query. -/
def Fills (s : Sql.Statement) (object : Reference) (q : Sql.Query) : Prop :=
  ∃ name, Reference.ofObjectName name = some object ∧
    (s.effect = .createTable name (some q) ∨
      ∃ materialized, s.effect = .createView name materialized q)

/-- `s` reads something under the name `base`, in a common table expression or for the object that
it creates. -/
def Links (s : Sql.Statement) (base : String) : Prop :=
  ∃ scope r, InSight s scope ∧ r.base = base ∧
    ((∃ cte, Declares s cte ∧ r ∈ Lineage.dependencies scope [cte.body]) ∨
      ∃ object q, Fills s object q ∧ r ∈ Lineage.bodyDependencies scope q)

/-- `base` is a common table expression for `s`, which declares it so or reads it under a name that
is in sight as one. -/
def RegistersCte (s : Sql.Statement) (base : String) : Prop :=
  (∃ cte, Declares s cte ∧ cte.nodeName = base) ∨
    Links s base ∧ ∃ cte, Declares s cte ∧ cte.localName = base

def Creates (s : Sql.Statement) (base : String) (kind : Kind) : Prop :=
  ∃ name r, Reference.ofObjectName name = some r ∧ r.base = base ∧
    ((kind = .table ∧ ∃ q, s.effect = .createTable name q) ∨
      (kind = .view ∧ ∃ q, s.effect = .createView name false q) ∨
      (kind = .materializedView ∧ ∃ q, s.effect = .createView name true q))

def Registers (s : Sql.Statement) (base : String) : Prop :=
  RegistersCte s base ∨ (∃ kind, Creates s base kind) ∨ Links s base

/-! ### What a WITH clause declares -/

theorem Sql.Cte.nodeName_ne_iff (cte : Sql.Cte) :
    cte.nodeName ≠ "" ↔ stripQuotes cte.localName.toList ≠ [] := by
  rw [nodeName, Ne, Ne, String.ofList_eq_empty_iff]

theorem bare_localName_eq_some_iff (cte : Sql.Cte) (r : Reference) :
    Reference.bare cte.localName = some r ↔
      cte.nodeName ≠ "" ∧ r = ⟨cte.nodeName, none, cte.nodeName⟩ := by
  rw [Reference.bare_eq_some_iff, cte.nodeName_ne_iff]
  rfl

theorem cteName?_eq_some_iff (cte : Sql.Cte) (name : String) :
    cteName? cte.name = some name ↔ cte.localName ≠ "" ∧ name = cte.localName := by
  rw [cteName?, Option.map_eq_some_iff, Sql.Cte.localName, Ne, String.ofList_eq_empty_iff]
  constructor
  · rintro ⟨r, hr, rfl⟩
    obtain ⟨hne, rfl⟩ := (Reference.bare_eq_some_iff _ _).1 hr
    exact ⟨hne, rfl⟩
  · rintro ⟨hne, rfl⟩
    exact ⟨_, (Reference.bare_eq_some_iff _ _).2 ⟨hne, rfl⟩, rfl⟩

theorem namedCte?_eq_some_iff (cte : Sql.Cte) (c : NamedCte) :
    namedCte? cte = some c ↔ cte.nodeName ≠ "" ∧ c = cte.named := by
  rw [namedCte?]
  simp only [Option.bind_eq_bind, Option.bind_eq_some_iff, cteName?_eq_some_iff]
  constructor
  · rintro ⟨name, ⟨_, rfl⟩, r, hr, heq⟩
    obtain ⟨hne, rfl⟩ := (bare_localName_eq_some_iff cte r).1 hr
    exact ⟨hne, (Option.some.inj heq).symm⟩
  · rintro ⟨hne, rfl⟩
    refine ⟨cte.localName, ⟨?_, rfl⟩, _, (bare_localName_eq_some_iff cte _).2 ⟨hne, rfl⟩, rfl⟩
    -- nothing is left of an empty name when quotes are taken off
    intro hempty
    rw [Sql.Cte.nodeName_ne_iff, hempty] at hne
    exact hne rfl

theorem mem_namedCtes (s : Sql.Statement) (c : NamedCte) :
    c ∈ namedCtes s ↔ ∃ cte, Declares s cte ∧ c = cte.named := by
  rw [namedCtes]
  cases hquery : s.definingQuery? with
  | none => simp [Declares, hquery]
  | some q =>
    simp only [List.mem_filterMap, namedCte?_eq_some_iff, Declares, hquery, Option.some.injEq,
      exists_eq_left', and_assoc]

theorem mem_foldl_declare (ctes : List NamedCte) (scope : CteScope) (name : String) :
    name ∈ ctes.foldl (fun scope c => scope.declare c.name) scope ↔
      name ∈ scope ∨ ∃ c ∈ ctes, c.name = name := by
  induction ctes generalizing scope with
  | nil => simp
  | cons c ctes ih =>
    have hdeclare : name ∈ scope.declare c.name ↔ name ∈ scope ∨ c.name = name := by
      rw [CteScope.declare]
      split
      · rename_i hmem
        refine (or_iff_left_of_imp ?_).symm
        rintro rfl
        exact List.contains_iff_mem.1 hmem
      · rw [List.mem_append, List.mem_singleton, eq_comm]
    rw [List.foldl_cons, ih, hdeclare, or_assoc]
    simp

theorem inSight_scopeOf (s : Sql.Statement) : InSight s (scopeOf (namedCtes s)) := by
  intro name
  rw [scopeOf, mem_foldl_declare]
  simp only [mem_namedCtes, List.not_mem_nil, false_or]
  constructor
  · rintro ⟨_, ⟨cte, hcte, rfl⟩, rfl⟩
    exact ⟨cte, hcte, rfl⟩
  · rintro ⟨cte, hcte, rfl⟩
    exact ⟨_, ⟨cte, hcte, rfl⟩, rfl⟩

theorem bare_of_mem_namedCtes {s : Sql.Statement} {c : NamedCte} (h : c ∈ namedCtes s) :
    Reference.bare c.name = some c.reference := by
  obtain ⟨cte, hcte, rfl⟩ := (mem_namedCtes s c).1 h
  exact (bare_localName_eq_some_iff cte _).2 ⟨hcte.2, rfl⟩

/-! ### What a statement looks at -/

theorem creation?_eq_some {s : Sql.Statement} {m : Creation} (h : creation? s = some m) :
    ∃ c, created? s = some c ∧ Reference.ofObjectName c.name = some m.reference ∧
      m.kind = c.kind ∧ m.reads = c.reads s := by
  obtain ⟨c, hc, hm⟩ := Option.bind_eq_some_iff.1 h
  obtain ⟨r, hr, rfl⟩ := Option.map_eq_some_iff.1 hm
  exact ⟨c, hc, hr, rfl, rfl⟩

theorem created?_eq_some_iff (s : Sql.Statement) (c : Created) :
    created? s = some c ↔
      (c.kind = .table ∧ s.effect = .createTable c.name c.query) ∨
      ∃ q, c.query = some q ∧ ((c.kind = .view ∧ s.effect = .createView c.name false q) ∨
        (c.kind = .materializedView ∧ s.effect = .createView c.name true q)) := by
  obtain ⟨name, kind, query⟩ := c
  rw [created?]
  cases s.effect with
  | createTable => simp [and_left_comm, eq_comm]
  | createView name' materialized q =>
    cases materialized <;> simp [and_comm, and_assoc, and_left_comm, eq_comm]
  | query | insert | other => simp

theorem created?_kind_ne_cteView {s : Sql.Statement} {c : Created} (h : created? s = some c) :
    c.kind ≠ .cteView := by
  rcases (created?_eq_some_iff s c).1 h with ⟨hkind, _⟩ | ⟨_, _, ⟨hkind, _⟩ | ⟨hkind, _⟩⟩
  all_goals
    rw [hkind]
    exact Kind.noConfusion

theorem creation?_of_created? {s : Sql.Statement} {c : Created} {r : Reference}
    (hc : created? s = some c) (hr : Reference.ofObjectName c.name = some r) :
    creation? s = some ⟨r, c.kind, c.reads s⟩ := by
  rw [creation?, hc, Option.bind_some, hr, Option.map_some]

theorem fills_iff (s : Sql.Statement) (object : Reference) (q : Sql.Query) :
    Fills s object q ↔
      ∃ c, created? s = some c ∧ Reference.ofObjectName c.name = some object ∧
        c.query = some q := by
  constructor
  · rintro ⟨name, hobject, heffect | ⟨materialized, heffect⟩⟩
    · exact ⟨⟨name, .table, some q⟩, by rw [created?, heffect], hobject, rfl⟩
    · refine ⟨⟨name, if materialized then .materializedView else .view, some q⟩, ?_, hobject, rfl⟩
      rw [created?, heffect]
  · rintro ⟨c, hc, hobject, hq⟩
    refine ⟨c.name, hobject, ?_⟩
    rcases (created?_eq_some_iff s c).1 hc with ⟨_, heffect⟩ | ⟨q', hq', hview⟩
    · exact .inl (hq ▸ heffect)
    · obtain rfl := Option.some.inj (hq.symm.trans hq')
      rcases hview with ⟨_, heffect⟩ | ⟨_, heffect⟩
      · exact .inr ⟨false, heffect⟩
      · exact .inr ⟨true, heffect⟩

theorem creates_iff (s : Sql.Statement) (base : String) (kind : Kind) :
    Creates s base kind ↔
      ∃ m, creation? s = some m ∧ m.reference.base = base ∧ m.kind = kind := by
  constructor
  · rintro ⟨name, r, hr, hbase, hkind⟩
    obtain ⟨query, hc⟩ : ∃ query, created? s = some ⟨name, kind, query⟩ := by
      rcases hkind with ⟨rfl, q, heffect⟩ | ⟨rfl, q, heffect⟩ | ⟨rfl, q, heffect⟩
      · exact ⟨q, (created?_eq_some_iff s _).2 (.inl ⟨rfl, heffect⟩)⟩
      · exact ⟨some q, (created?_eq_some_iff s _).2 (.inr ⟨q, rfl, .inl ⟨rfl, heffect⟩⟩)⟩
      · exact ⟨some q, (created?_eq_some_iff s _).2 (.inr ⟨q, rfl, .inr ⟨rfl, heffect⟩⟩)⟩
    exact ⟨_, creation?_of_created? hc hr, hbase, rfl⟩
  · rintro ⟨m, hm, rfl, rfl⟩
    obtain ⟨c, hc, hname, hkind, _⟩ := creation?_eq_some hm
    refine ⟨c.name, m.reference, hname, rfl, ?_⟩
    rw [hkind]
    rcases (created?_eq_some_iff s c).1 hc with ⟨hkind, heffect⟩ | ⟨q, _, hview⟩
    · exact .inl ⟨hkind, c.query, heffect⟩
    · rcases hview with ⟨hkind, heffect⟩ | ⟨hkind, heffect⟩
      · exact .inr (.inl ⟨hkind, q, heffect⟩)
      · exact .inr (.inr ⟨hkind, q, heffect⟩)

theorem base_ne_of_reads {s : Sql.Statement} {r : Reference} (h : Reads s r) : r.base ≠ "" := by
  rcases h with ⟨c, _, hr⟩ | ⟨m, hm, hr⟩
  · exact Lineage.base_ne_of_mem_dependencies hr
  · obtain ⟨c, _, _, _, hreads⟩ := creation?_eq_some hm
    rw [hreads, Created.reads] at hr
    split at hr
    · cases hr
    · exact Lineage.base_ne_of_mem_bodyDependencies hr

theorem links_iff (s : Sql.Statement) (base : String) :
    Links s base ↔ ∃ r, Reads s r ∧ r.base = base := by
  constructor
  · rintro ⟨scope, r, hscope, rfl, hr⟩
    have hsame : ∀ name, name ∈ scope ↔ name ∈ scopeOf (namedCtes s) := by
      intro name
      rw [hscope, inSight_scopeOf]
    refine ⟨r, ?_, rfl⟩
    rcases hr with ⟨cte, hcte, hr⟩ | ⟨object, q, hfills, hr⟩
    · rw [Lineage.dependencies_congr hsame] at hr
      exact .inl ⟨cte.named, (mem_namedCtes s _).2 ⟨cte, hcte, rfl⟩, hr⟩
    · obtain ⟨c, hc, hobject, hq⟩ := (fills_iff s object q).1 hfills
      rw [Lineage.bodyDependencies_eq, Lineage.dependencies_congr hsame,
        ← Lineage.bodyDependencies_eq] at hr
      refine .inr ⟨_, creation?_of_created? hc hobject, ?_⟩
      simpa only [Created.reads, hq] using hr
  · rintro ⟨r, hr, rfl⟩
    refine ⟨scopeOf (namedCtes s), r, inSight_scopeOf s, rfl, ?_⟩
    rcases hr with ⟨c, hc, hr⟩ | ⟨m, hm, hr⟩
    · obtain ⟨cte, hcte, rfl⟩ := (mem_namedCtes s c).1 hc
      exact .inl ⟨cte, hcte, hr⟩
    · obtain ⟨c, hc, hobject, _, hreads⟩ := creation?_eq_some hm
      rw [hreads, Created.reads] at hr
      cases hq : c.query with
      | none =>
        rw [hq] at hr
        cases hr
      | some q =>
        rw [hq] at hr
        exact .inr ⟨m.reference, q, (fills_iff s _ q).2 ⟨c, hc, hobject, hq⟩, hr⟩

theorem exists_declared_iff (s : Sql.Statement) (base : String) :
    (∃ c ∈ namedCtes s, c.reference.base = base) ↔ ∃ cte, Declares s cte ∧ cte.nodeName = base := by
  simp only [mem_namedCtes]
  constructor
  · rintro ⟨_, ⟨cte, hcte, rfl⟩, hbase⟩
    exact ⟨cte, hcte, hbase⟩
  · rintro ⟨cte, hcte, hbase⟩
    exact ⟨_, ⟨cte, hcte, rfl⟩, hbase⟩

theorem mem_sightings (s : Sql.Statement) (x : Sighting) :
    x ∈ sightings s ↔
      (∃ c ∈ namedCtes s, x = .declared c) ∨
      (∃ m, creation? s = some m ∧ x = .created m.reference m.kind s.text) ∨
      ∃ r, Reads s r ∧ x = .read (scopeOf (namedCtes s)) r := by
  simp only [sightings, Reads, List.mem_append, List.mem_map, List.mem_flatMap, Option.mem_toList,
    List.mem_cons]
  constructor
  · rintro ((⟨c, hc, rfl⟩ | ⟨c, hc, r, hr, rfl⟩) | ⟨m, hm, rfl | ⟨r, hr, rfl⟩⟩)
    · exact .inl ⟨c, hc, rfl⟩
    · exact .inr (.inr ⟨r, .inl ⟨c, hc, hr⟩, rfl⟩)
    · exact .inr (.inl ⟨m, hm, rfl⟩)
    · exact .inr (.inr ⟨r, .inr ⟨m, hm, hr⟩, rfl⟩)
  · rintro (⟨c, hc, rfl⟩ | ⟨m, hm, rfl⟩ | ⟨r, ⟨c, hc, hr⟩ | ⟨m, hm, hr⟩, rfl⟩)
    · exact .inl (.inl ⟨c, hc, rfl⟩)
    · exact .inr ⟨m, hm, .inl rfl⟩
    · exact .inl (.inr ⟨c, hc, r, hr, rfl⟩)
    · exact .inr ⟨m, hm, .inr ⟨r, hr, rfl⟩⟩

theorem exists_sightings_iff (s : Sql.Statement) (p : Sighting → Prop) :
    (∃ x ∈ sightings s, p x) ↔
      (∃ c ∈ namedCtes s, p (.declared c)) ∨
      (∃ m, creation? s = some m ∧ p (.created m.reference m.kind s.text)) ∨
      ∃ r, Reads s r ∧ p (.read (scopeOf (namedCtes s)) r) := by
  simp only [mem_sightings, or_and_right, exists_or, ↓existsAndEq, and_assoc, true_and]

theorem sightings_base_ne {s : Sql.Statement} {x : Sighting} (h : x ∈ sightings s) :
    x.reference.base ≠ "" := by
  rcases (mem_sightings s x).1 h with ⟨c, hc, rfl⟩ | ⟨m, hm, rfl⟩ | ⟨r, hr, rfl⟩
  · exact Reference.bare_base_ne (bare_of_mem_namedCtes hc)
  · obtain ⟨c, _, hname, _, _⟩ := creation?_eq_some hm
    exact Reference.ofObjectName_base_ne hname
  · exact base_ne_of_reads hr

theorem sightings_createdKind {s : Sql.Statement} {x : Sighting} (h : x ∈ sightings s) :
    x.createdKind? ≠ some .cteView := by
  rcases (mem_sightings s x).1 h with ⟨c, _, rfl⟩ | ⟨m, hm, rfl⟩ | ⟨r, _, rfl⟩
  · exact nofun
  · obtain ⟨c, hc, _, hkind, _⟩ := creation?_eq_some hm
    intro hcte
    exact created?_kind_ne_cteView hc (hkind.symm.trans (Option.some.inj hcte))
  · exact nofun

/-! What the looks of a statement at one name come to. -/

theorem exists_marksCte_iff (s : Sql.Statement) (base : String) :
    (∃ x ∈ sightings s, x.reference.base = base ∧ x.MarksCte) ↔ RegistersCte s base := by
  rw [exists_sightings_iff, RegistersCte, links_iff, ← exists_declared_iff, ← inSight_scopeOf]
  simp only [Sighting.reference, Sighting.MarksCte, and_true, and_false, exists_false, false_or]
  refine or_congr_right ?_
  constructor
  · rintro ⟨r, hr, rfl, hscope⟩
    exact ⟨⟨r, hr, rfl⟩, hscope⟩
  · rintro ⟨⟨r, hr, rfl⟩, hscope⟩
    exact ⟨r, hr, rfl, hscope⟩

theorem exists_createdKind_iff (s : Sql.Statement) (base : String) (kind : Kind) :
    (∃ x ∈ sightings s, x.reference.base = base ∧ x.createdKind? = some kind) ↔
      Creates s base kind := by
  rw [exists_sightings_iff, creates_iff]
  simp [Sighting.reference, Sighting.createdKind?]

theorem exists_sighting_iff (s : Sql.Statement) (base : String) :
    (∃ x ∈ sightings s, x.reference.base = base) ↔ Registers s base := by
  rw [exists_sightings_iff, Registers, RegistersCte, links_iff, ← exists_declared_iff]
  simp only [creates_iff]
  constructor
  · rintro (hcte | ⟨m, hm, hbase⟩ | hlinks)
    · exact .inl (.inl hcte)
    · exact .inr (.inl ⟨m.kind, m, hm, hbase, rfl⟩)
    · exact .inr (.inr hlinks)
  · rintro ((hcte | ⟨hlinks, _⟩) | ⟨_, m, hm, hbase, _⟩ | hlinks)
    · exact .inl hcte
    · exact .inr (.inr hlinks)
    · exact .inr (.inl ⟨m, hm, hbase⟩)
    · exact .inr (.inr hlinks)

namespace Guess

theorem kindOf_ne_cteView (guess : Guess) (markers : List String) (base : String) :
    guess.kindOf markers base ≠ .cteView := by
  cases guess with
  | naming => cases h : hasMarker markers base <;> simp [kindOf, h]
  | table => exact Kind.noConfusion
  | unknown => exact Kind.noConfusion

end Guess

namespace Builder

variable {guess : String → Kind}

theorem run_nodes_eq (guess : String → Kind) (ss : List Sql.Statement) :
    (run guess ss).nodes = (ss.flatMap sightings).foldl (Sighting.apply guess) [] := by
  rw [run, foldl_step_eq_advance]
  rfl

theorem base_ne_of_mem_run {ss : List Sql.Statement} :
    ∀ x ∈ ss.flatMap sightings, x.reference.base ≠ "" := by
  intro x hx
  obtain ⟨s, _, hs⟩ := List.mem_flatMap.1 hx
  exact sightings_base_ne hs

theorem createdKind_of_mem_run {ss : List Sql.Statement} :
    ∀ x ∈ ss.flatMap sightings, x.createdKind? ≠ some .cteView := by
  intro x hx
  obtain ⟨s, _, hs⟩ := List.mem_flatMap.1 hx
  exact sightings_createdKind hs

theorem run_nodes_sorted (guess : String → Kind) (ss : List Sql.Statement) :
    (run guess ss).nodes.Sorted := by
  rw [run_nodes_eq]
  exact Sighting.sorted_foldl_apply guess _ base_ne_of_mem_run [] Catalog.sorted_nil

theorem mem_names_run (guess : String → Kind) (ss : List Sql.Statement) (base : String) :
    base ∈ (run guess ss).nodes.names ↔ ∃ s ∈ ss, Registers s base := by
  rw [run_nodes_eq, Sighting.mem_names_foldl_apply guess _ base_ne_of_mem_run]
  simp only [← exists_sighting_iff, List.mem_flatMap]
  constructor
  · rintro (hnil | ⟨x, ⟨s, hs, hx⟩, hbase⟩)
    · cases hnil
    · exact ⟨s, hs, x, hx, hbase⟩
  · rintro ⟨s, hs, x, hx, hbase⟩
    exact .inr ⟨x, ⟨s, hs, hx⟩, hbase⟩

theorem exists_sightingsAt_run (ss : List Sql.Statement) (base : String) (p : Sighting → Prop) :
    (∃ x ∈ Sighting.sightingsAt base (ss.flatMap sightings), p x) ↔
      ∃ s ∈ ss, ∃ x ∈ sightings s, x.reference.base = base ∧ p x := by
  simp only [Sighting.sightingsAt, List.mem_filter, List.mem_flatMap, beq_iff_eq]
  constructor
  · rintro ⟨x, ⟨⟨s, hs, hx⟩, hbase⟩, hp⟩
    exact ⟨s, hs, x, hx, hbase, hp⟩
  · rintro ⟨s, hs, x, hx, hbase, hp⟩
    exact ⟨x, ⟨⟨s, hs, hx⟩, hbase⟩, hp⟩

theorem marked_run_iff (ss : List Sql.Statement) (base : String) :
    (∃ x ∈ Sighting.sightingsAt base (ss.flatMap sightings), x.MarksCte) ↔
      ∃ s ∈ ss, RegistersCte s base := by
  simp only [exists_sightingsAt_run, exists_marksCte_iff]

theorem mem_createdKinds_run_iff (ss : List Sql.Statement) (base : String) (kind : Kind) :
    kind ∈ (Sighting.sightingsAt base (ss.flatMap sightings)).filterMap Sighting.createdKind? ↔
      ∃ s ∈ ss, Creates s base kind := by
  simp only [List.mem_filterMap, exists_sightingsAt_run, exists_createdKind_iff]

theorem accounts_of_find?_run (hguess : ∀ base, guess base ≠ .cteView) {ss : List Sql.Statement}
    {base : String} {n : Node} (h : (run guess ss).nodes.find? base = some n) :
    Sighting.Accounts guess base (Sighting.sightingsAt base (ss.flatMap sightings)) n := by
  rw [run_nodes_eq] at h
  exact Sighting.accounts_run hguess _ base_ne_of_mem_run createdKind_of_mem_run h

theorem summary_run_perm (hguess : ∀ base, guess base ≠ .cteView) {ss ss' : List Sql.Statement}
    (hperm : ss.Perm ss') :
    Catalog.summary (fun n => (n.kind, n.inferred)) (run guess ss).nodes =
      Catalog.summary (fun n => (n.kind, n.inferred)) (run guess ss').nodes := by
  refine ((run_nodes_sorted guess ss).summary _).ext ((run_nodes_sorted guess ss').summary _) ?_
  intro base
  have hnames : (∃ n, (run guess ss).nodes.find? base = some n) ↔
      ∃ n, (run guess ss').nodes.find? base = some n := by
    simp only [← Catalog.mem_names_iff_find?, mem_names_run, hperm.mem_iff]
  rw [Catalog.find?_summary, Catalog.find?_summary]
  cases hfind : (run guess ss).nodes.find? base with
  | none =>
    cases hfind' : (run guess ss').nodes.find? base with
    | none => rfl
    | some n' =>
      obtain ⟨n, hn⟩ := hnames.2 ⟨n', hfind'⟩
      cases hfind.symm.trans hn
  | some n =>
    obtain ⟨n', hfind'⟩ := hnames.1 ⟨n, hfind⟩
    have hlooks := (hperm.flatMap_right sightings).filter fun x => x.reference.base == base
    have haccounts := (accounts_of_find?_run hguess hfind).congr fun _ => hlooks.mem_iff
    obtain ⟨hkind, hinferred⟩ := haccounts.unique (accounts_of_find?_run hguess hfind')
    rw [hfind', Option.map_some, Option.map_some, hkind, hinferred]

/-- The nodes of a run. The names are those that some statement registers as a common table
expression, creates or reads. Being a common table expression anywhere decides what a name is;
failing that, the highest of the kinds it is created as; failing that, the guess. The ways of
guessing that a user can choose from all qualify. -/
theorem run_nodes (hguess : ∀ base, guess base ≠ .cteView) (ss : List Sql.Statement) :
    (∀ base, base ∈ (run guess ss).nodes.names ↔
      ∃ s ∈ ss, RegistersCte s base ∨ (∃ kind, Creates s base kind) ∨ Links s base) ∧
    (∀ base n, (base, n) ∈ (run guess ss).nodes →
      ((∃ s ∈ ss, RegistersCte s base) → n.kind = .cteView ∧ n.inferred = false) ∧
      ((¬ ∃ s ∈ ss, RegistersCte s base) → (∃ s ∈ ss, ∃ kind, Creates s base kind) →
        (∃ s ∈ ss, Creates s base n.kind) ∧
        (∀ s ∈ ss, ∀ kind, Creates s base kind → kind ≤ n.kind) ∧ n.inferred = false) ∧
      ((¬ ∃ s ∈ ss, RegistersCte s base) → (¬ ∃ s ∈ ss, ∃ kind, Creates s base kind) →
        n.kind = guess base ∧ n.inferred = true ∧ n.definition = none)) ∧
    (∀ ss', ss.Perm ss' →
      Catalog.summary (fun n => (n.kind, n.inferred)) (run guess ss).nodes =
        Catalog.summary (fun n => (n.kind, n.inferred)) (run guess ss').nodes) ∧
    ∀ (mode : Guess) (markers : List String) (base : String),
      mode.kindOf markers base ≠ .cteView := by
  refine ⟨mem_names_run guess ss, ?_, fun ss' hperm => summary_run_perm hguess hperm,
    Guess.kindOf_ne_cteView⟩
  intro base n hmem
  have hfind := ((run_nodes_sorted guess ss).mem_iff_find? base n).1 hmem
  rw [← marked_run_iff]
  cases accounts_of_find?_run hguess hfind with
  | cte marked kind inferred =>
    exact ⟨fun _ => ⟨kind, inferred⟩, fun h => absurd marked h, fun h => absurd marked h⟩
  | created unmarked mem highest inferred =>
    have hcreated := (mem_createdKinds_run_iff ss base n.kind).1 mem
    refine ⟨fun ⟨x, hx, hmarks⟩ => absurd hmarks (unmarked x hx),
      fun _ _ => ⟨hcreated, ?_, inferred⟩, fun _ h => ?_⟩
    · intro s hs kind hcreates
      exact highest kind ((mem_createdKinds_run_iff ss base kind).2 ⟨s, hs, hcreates⟩)
    · obtain ⟨s, hs, hcreates⟩ := hcreated
      exact absurd ⟨s, hs, n.kind, hcreates⟩ h
  | guessed unmarked uncreated kind inferred definition =>
    refine ⟨fun ⟨x, hx, hmarks⟩ => absurd hmarks (unmarked x hx), fun _ h => ?_,
      fun _ _ => ⟨kind, inferred, definition⟩⟩
    obtain ⟨s, hs, k, hcreates⟩ := h
    have hk := (mem_createdKinds_run_iff ss base k).2 ⟨s, hs, hcreates⟩
    rw [uncreated] at hk
    cases hk

/-- A view reads the common table expression of its WITH clause, which reads a name that looks like
a view and is created as a table: a table it is in both orders of the two statements. The common
table expression goes by its name without the blank and the quotes. -/
theorem run_nodes_with_clause :
    (∀ base, Guess.kindOf .naming Guess.defaultMarkers base ≠ .cteView) ∧
    ∀ ss, List.Perm
        [⟨⟨"CREATE VIEW v AS WITH \" c\" AS (SELECT * FROM old_view) SELECT * FROM c, b_view", []⟩,
          .createView [.bare "v"] false
            { ctes := [⟨⟨" c", some '"'⟩, "\" c\" AS (SELECT * FROM old_view)",
                .query [] [.table [.bare "old_view"] false]⟩]
              body := ⟨"SELECT * FROM c, b_view",
                [.table [.bare "c"] false, .table [.bare "b_view"] false]⟩ }⟩,
        ⟨⟨"CREATE TABLE old_view (a INT)", []⟩, .createTable [.bare "old_view"] none⟩] ss →
      Catalog.summary (fun n => (n.kind, n.inferred))
          (run (Guess.kindOf .naming Guess.defaultMarkers) ss).nodes =
        [("b_view", .view, true), ("c", .cteView, false), ("old_view", .table, false),
          ("v", .view, false)] := by
  refine ⟨Guess.kindOf_ne_cteView .naming Guess.defaultMarkers, fun ss hperm => ?_⟩
  have h := (run_nodes (Guess.kindOf_ne_cteView .naming Guess.defaultMarkers) _).2.2.1 ss hperm
  rw [← h]
  decide +kernel

end Builder
end SqlLineage
