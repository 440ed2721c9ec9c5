import SqlLineage.Proofs.GraphClosure
import SqlLineage.Proofs.QualifiedReference
import SqlLineage.Proofs.WrittenName

/-! Where a node has its schema and its full name from. The schema is that of the first look at the
name that tells one, and it stays. The full name is that of the look which told the schema, unless
the name is created again later: then it is the one used there. So the two agree as long as nothing
creates the name anew under another schema, or under none. -/

namespace SqlLineage

namespace Sighting

variable {guess : String → Kind} {before looks : List Sighting} {n : Node} {x : Sighting}

/-! ### Looks that are heeded -/

def creates (x : Sighting) : Bool := x.createdKind?.isSome

/-- A statement that creates the name as something lower than before is not heeded; any other look
is. -/
def Heeded (before : List Sighting) (x : Sighting) : Prop :=
  ∀ kind ∈ x.createdKind?, ∀ k ∈ before.filterMap createdKind?, k ≤ kind

instance (before : List Sighting) (x : Sighting) : Decidable (Heeded before x) :=
  inferInstanceAs
    (Decidable (∀ kind ∈ x.createdKind?, ∀ k ∈ before.filterMap createdKind?, k ≤ kind))

theorem heeded_of_createdKind?_eq_none (h : x.createdKind? = none) : Heeded before x := by
  intro kind hkind
  rw [h] at hkind
  cases hkind

def heededAfter (before : List Sighting) : List Sighting → List Sighting
  | [] => []
  | x :: rest =>
    if Heeded before x then x :: heededAfter (before ++ [x]) rest
    else heededAfter (before ++ [x]) rest

theorem mem_of_mem_heededAfter (h : x ∈ heededAfter before looks) : x ∈ looks := by
  induction looks generalizing before with
  | nil => exact h
  | cons y looks ih =>
    rw [heededAfter] at h
    split at h
    · rcases List.mem_cons.1 h with rfl | h
      · exact List.mem_cons_self
      · exact List.mem_cons_of_mem y (ih h)
    · exact List.mem_cons_of_mem y (ih h)

theorem node_of_cteView (h : n.kind = .cteView) (x : Sighting) : x.node guess (some n) = n := by
  cases x with
  | declared c => exact Node.update_of_cteView h _ _ _
  | created r kind definition => exact Node.update_of_cteView h _ _ _
  | read scope r =>
    rw [node]
    split <;> exact Node.update_of_cteView h _ _ _

theorem foldl_node_of_cteView (guess : String → Kind) (h : n.kind = .cteView)
    (looks : List Sighting) :
    looks.foldl (fun node? x => some (x.node guess node?)) (some n) = some n := by
  induction looks with
  | nil => rfl
  | cons x looks ih => rw [List.foldl_cons, node_of_cteView h, ih]

/-- What creates the name counts for the node just if it is no lower than what created it so far. -/
def Ranks (before : List Sighting) (n : Node) : Prop :=
  ∀ kind, (n.inferred = true ∨ n.kind ≤ kind) ↔ ∀ k ∈ before.filterMap createdKind?, k ≤ kind

theorem forall_createdKinds_concat (p : Kind → Prop) :
    (∀ k ∈ (before ++ [x]).filterMap createdKind?, p k) ↔
      (∀ k ∈ before.filterMap createdKind?, p k) ∧ ∀ k ∈ x.createdKind?, p k := by
  rw [List.filterMap_append, List.forall_mem_append]
  simp [List.mem_filterMap]

theorem node_of_heeded (hn : n.kind ≠ .cteView) (hranks : Ranks before n) (h : Heeded before x)
    (hx : (x.node guess (some n)).kind ≠ .cteView) :
    Ranks (before ++ [x]) (x.node guess (some n)) ∧
    ∃ m : Node, x.node guess (some n) = m.fillSchema x.reference ∧ m.schema = n.schema ∧
      m.fullName = if x.creates then x.reference.fullName else n.fullName := by
  cases x with
  | declared c => exact absurd (Node.update_cteView_kind _ _ _) hx
  | created r kind definition =>
    have hkind : kind ≠ .cteView := by
      rintro rfl
      exact hx (Node.update_cteView_kind _ _ _)
    -- being heeded is what lets the definition through
    have hcounts : n.inferred = true ∨ n.kind ≤ kind := (hranks kind).2 (h kind rfl)
    have hcond : (n.inferred && (some definition).isSome || n.kind ≤ kind) = true := by
      simpa using hcounts
    obtain ⟨hnew, hinferred⟩ := Node.update_defined hn hkind hcounts r definition
    constructor
    · -- the node is now what `x` creates, and that is the highest of all so far
      intro k
      rw [forall_createdKinds_concat, node, Node.registered, hnew, hinferred]
      constructor
      · intro hle
        have hle : kind ≤ k := hle.resolve_left Bool.false_ne_true
        refine ⟨fun j hj => Kind.le_trans (h kind rfl j hj) hle, fun j hj => ?_⟩
        obtain rfl : kind = j := Option.some.inj hj
        exact hle
      · exact fun hle => .inr (hle.2 kind rfl)
    · refine ⟨Node.define { n with kind := kind } r.fullName (some definition), ?_,
        Node.define_schema _ _ _, rfl⟩
      rw [node, Node.registered, Node.update, if_neg hn, if_neg hkind, if_pos hcond]
      rfl
  | read scope r =>
    rw [node] at hx ⊢
    split
    · rename_i hscope
      rw [if_pos hscope] at hx
      exact absurd (Node.update_cteView_kind _ _ _) hx
    · constructor
      · intro k
        rw [forall_createdKinds_concat, Node.mentioned, (n.update_self r).1, (n.update_self r).2.1,
          hranks]
        simp [createdKind?]
      · exact ⟨n, Node.update_self_eq hn r, rfl, rfl⟩

theorem node_of_not_heeded (guess : String → Kind) (hranks : Ranks before n)
    (h : ¬ Heeded before x) :
    Ranks (before ++ [x]) n ∧ x.node guess (some n) = n := by
  cases x with
  | declared c => exact absurd (heeded_of_createdKind?_eq_none rfl) h
  | read scope r => exact absurd (heeded_of_createdKind?_eq_none rfl) h
  | created r kind definition =>
    have hout : ¬ (n.inferred = true ∨ n.kind ≤ kind) := by
      intro hcounts
      refine h fun k hk => ?_
      obtain rfl : kind = k := Option.some.inj hk
      exact (hranks kind).1 hcounts
    rw [not_or, Bool.not_eq_true] at hout
    have hkind : kind ≠ .cteView := by
      rintro rfl
      exact hout.2 n.kind.le_cteView
    refine ⟨fun k => ?_, Node.update_outranked hkind hout.1 hout.2 r _⟩
    rw [forall_createdKinds_concat, ← hranks]
    refine ⟨fun hle => ⟨hle, fun j hj => ?_⟩, And.left⟩
    obtain rfl : kind = j := Option.some.inj hj
    have hle : n.kind ≤ k := hle.resolve_left (by rw [hout.1]; exact Bool.false_ne_true)
    exact Kind.le_trans (Kind.le_of_not_le hout.2) hle

/-! ### What a node shows -/

def lastCreated? (looks : List Sighting) : Option Sighting := (looks.filter creates).getLast?

def named? (looks : List Sighting) : Option Sighting := (lastCreated? looks).or looks.head?

theorem lastCreated?_concat (looks : List Sighting) (x : Sighting) :
    lastCreated? (looks ++ [x]) = if x.creates then some x else lastCreated? looks := by
  rw [lastCreated?, List.filter_append]
  cases hx : x.creates with
  | true => simp [hx]
  | false => simp [hx, lastCreated?]

theorem getD_lastCreated?_mem (x : Sighting) (looks : List Sighting) :
    (lastCreated? looks).getD x ∈ x :: looks := by
  cases hlast : lastCreated? looks with
  | none => exact List.mem_cons_self
  | some d => exact List.mem_cons_of_mem x (List.mem_filter.1 (List.mem_of_getLast? hlast)).1

theorem named?_concat {y : Sighting} (h : named? looks = some y) (x : Sighting) :
    named? (looks ++ [x]) = some (if x.creates then x else y) := by
  rw [named?] at h ⊢
  rw [lastCreated?_concat]
  cases hx : x.creates with
  | true => rfl
  | false =>
    rw [if_neg Bool.false_ne_true, if_neg Bool.false_ne_true, List.head?_append, ← Option.or_assoc,
      h, Option.some_or]

/-- What the heeded looks at a name make of the schema and the full name of its node. -/
inductive Shows (base : String) (looks : List Sighting) (n : Node) : Prop
  | bare (y : Sighting) (untold : ∀ x ∈ looks, x.reference.schema = none) (schema : n.schema = none)
      (named : named? looks = some y) (fullName : n.fullName = y.reference.fullName)
  | qualified (before : List Sighting) (x : Sighting) (after : List Sighting) (s : String)
      (looks_eq : looks = before ++ x :: after) (untold : ∀ y ∈ before, y.reference.schema = none)
      (told : x.reference.schema = some s) (schema : n.schema = some s)
      (fullName : (lastCreated? after = none →
          x.creates = true ∨ ∀ y, named? before = some y → y.reference.fullName = base) →
        n.fullName = ((lastCreated? after).getD x).reference.fullName)

theorem shows_singleton (hschema : n.schema = x.reference.schema)
    (hname : n.fullName = x.reference.fullName) : Shows x.reference.base [x] n := by
  cases hx : x.reference.schema with
  | none =>
    refine .bare x (List.forall_mem_singleton.2 hx) (hschema.trans hx) ?_ hname
    rw [named?, ← List.nil_append [x], lastCreated?_concat]
    split <;> rfl
  | some s =>
    exact .qualified [] x [] s rfl (List.forall_mem_nil _) hx (hschema.trans hx) fun _ => hname

theorem Shows.step {base : String} {m : Node} (h : Shows base looks n)
    (hbase : x.reference.base = base) (hschema : m.schema = n.schema)
    (hname : m.fullName = if x.creates then x.reference.fullName else n.fullName) :
    Shows base (looks ++ [x]) (m.fillSchema x.reference) := by
  cases h with
  | bare y untold schema named fullName =>
    cases hx : x.reference.schema with
    | none =>
      rw [Node.fillSchema_of_none hx]
      refine .bare (if x.creates then x else y)
        (List.forall_mem_append.2 ⟨untold, List.forall_mem_singleton.2 hx⟩) (hschema.trans schema)
        (named?_concat named x) ?_
      rw [hname, fullName]
      split <;> rfl
    | some s =>
      refine .qualified looks x [] s rfl untold hx ?_ fun hplain => ?_
      · rw [Node.fillSchema_schema, hschema, schema, hx]
        rfl
      · rw [Node.fillSchema_fullName (hschema.trans schema) hx, hbase]
        -- the full name is that of `x` by now, or it is the mere base and `x` replaces it
        cases hcreates : x.creates with
        | true =>
          rw [if_pos hcreates] at hname
          rw [hname]
          exact ite_self _
        | false =>
          rw [hcreates] at hname hplain
          have hbefore := (hplain rfl).resolve_left Bool.false_ne_true
          rw [if_pos (hname.trans (fullName.trans (hbefore y named)))]
          rfl
  | qualified before first after s looks_eq untold told schema fullName =>
    -- the schema stays, so only a look that creates the name changes anything
    rw [Node.fillSchema_of_some (hschema.trans schema)]
    refine .qualified before first (after ++ [x]) s ?_ untold told (hschema.trans schema) ?_
    · rw [looks_eq, List.append_assoc, List.cons_append]
    · rw [lastCreated?_concat, hname]
      cases x.creates with
      | true => exact fun _ => rfl
      | false => exact fullName

theorem Shows.foldl {base : String} {n' : Node} (more : List Sighting) (before : List Sighting)
    (hmore : ∀ x ∈ more, x.reference.base = base) (hn : n.kind ≠ .cteView)
    (hranks : Ranks before n) (h : Shows base looks n)
    (hrun : more.foldl (fun node? x => some (x.node guess node?)) (some n) = some n')
    (hn' : n'.kind ≠ .cteView) : Shows base (looks ++ heededAfter before more) n' := by
  -- on the looks to come: `before` is all that came, `looks` what was heeded of it
  induction more generalizing before looks n with
  | nil =>
    obtain rfl := Option.some.inj hrun
    rwa [heededAfter, List.append_nil]
  | cons x more ih =>
    -- a common table expression would stay one to the end
    have hx : (x.node guess (some n)).kind ≠ .cteView := by
      intro hcte
      rw [List.foldl_cons, foldl_node_of_cteView guess hcte] at hrun
      exact hn' (Option.some.inj hrun ▸ hcte)
    have hrest := fun y hy => hmore y (List.mem_cons_of_mem x hy)
    rw [heededAfter]
    split
    · rename_i hheeded
      obtain ⟨hranks', m, hnode, hschema, hname⟩ := node_of_heeded hn hranks hheeded hx
      have hstep := h.step (hmore x List.mem_cons_self) hschema hname
      rw [← hnode] at hstep
      have hall := ih (before ++ [x]) hrest hx hranks' hstep hrun
      rwa [List.append_assoc, List.singleton_append] at hall
    · rename_i hheeded
      obtain ⟨hranks', hsame⟩ := node_of_not_heeded guess hranks hheeded
      rw [List.foldl_cons, hsame] at hrun
      exact ih (before ++ [x]) hrest hn hranks' h hrun

theorem shows_first (hx : (x.node guess none).kind ≠ .cteView) :
    Ranks [x] (x.node guess none) ∧ Shows x.reference.base [x] (x.node guess none) := by
  cases x with
  | declared c => exact absurd rfl hx
  | created r kind definition =>
    have hkind : kind ≠ .cteView := by
      rintro rfl
      exact hx rfl
    have hfirst := Node.first_of_ne hkind r (some definition)
    rw [node, Node.registered, hfirst]
    refine ⟨fun k => ?_, shows_singleton rfl rfl⟩
    simp [createdKind?]
  | read scope r =>
    rw [node] at hx ⊢
    split
    · rename_i hscope
      rw [if_pos hscope] at hx
      exact absurd rfl hx
    · rename_i hscope
      rw [if_neg hscope] at hx
      have hguess : guess r.base ≠ .cteView := by
        intro hcte
        rw [Node.mentioned, hcte] at hx
        exact hx rfl
      have hfirst := Node.first_of_ne hguess r none
      rw [Node.mentioned, hfirst]
      refine ⟨fun k => ?_, shows_singleton rfl rfl⟩
      simp [createdKind?]

theorem shows_run {seen : List Sighting} (hseen : ∀ x ∈ seen, x.reference.base ≠ "")
    {base : String} (h : Catalog.find? (seen.foldl (apply guess) []) base = some n)
    (hn : n.kind ≠ .cteView) : Shows base (heededAfter [] (sightingsAt base seen)) n := by
  obtain ⟨x, more, hlooks, rfl, hrun⟩ := exists_first_look hseen h
  have hx : (x.node guess none).kind ≠ .cteView := by
    intro hcte
    rw [foldl_node_of_cteView guess hcte] at hrun
    exact hn (Option.some.inj hrun ▸ hcte)
  have hmore : ∀ y ∈ more, y.reference.base = x.reference.base := by
    intro y hy
    have hmem := List.mem_cons_of_mem x hy
    rw [← hlooks] at hmem
    exact (mem_sightingsAt.1 hmem).2
  obtain ⟨hranks, hshows⟩ := shows_first hx
  have hheeded : Heeded [] x := fun _ _ _ hk => absurd hk List.not_mem_nil
  rw [hlooks, heededAfter, if_pos hheeded]
  exact hshows.foldl more [x] hmore hx hranks hrun hn

end Sighting

/-! ### Names with a schema -/

def NamesIn (schema text : String) : Prop :=
  ∃ name r, Reference.ofObjectName name = some r ∧ r.schema = some schema ∧
    Sql.ObjectName.render name = text

theorem Reference.fullName_of_ofObjectName {name : Sql.ObjectName} {r : Reference}
    (h : ofObjectName name = some r) : r.fullName = Sql.ObjectName.render name := by
  unfold ofObjectName ofParts at h
  split at h
  · cases h
  · cases h
  · cases h
    rfl

theorem Lineage.exists_name_of_mem_dependencies {scope : CteScope} {ms : List Sql.Mention}
    {r : Reference} {s : String} (h : r ∈ dependencies scope ms) (hs : r.schema = some s) :
    ∃ name, Reference.ofObjectName name = some r := by
  rw [dependencies_eq, mem_firstByName_iff] at h
  obtain ⟨o, -, ho⟩ := List.mem_filterMap.1 (List.mem_of_find?_eq_some h)
  exact ⟨o.name, ((Occurrence.resolve_eq_some_iff hs).1 ho).2.1⟩

theorem exists_name_of_reads {statement : Sql.Statement} {r : Reference} {s : String}
    (h : Reads statement r) (hs : r.schema = some s) :
    ∃ name, Reference.ofObjectName name = some r := by
  rcases h with ⟨c, -, hr⟩ | ⟨m, hm, hr⟩
  · exact Lineage.exists_name_of_mem_dependencies hr hs
  · obtain ⟨c, -, -, -, hreads⟩ := creation?_eq_some hm
    rw [hreads, Created.reads] at hr
    split at hr
    · cases hr
    · rw [Lineage.bodyDependencies_eq] at hr
      exact Lineage.exists_name_of_mem_dependencies hr hs

theorem namesIn_of_mem_sightings {statement : Sql.Statement} {x : Sighting} {s : String}
    (h : x ∈ sightings statement) (hs : x.reference.schema = some s) :
    NamesIn s x.reference.fullName := by
  have hname : ∃ name, Reference.ofObjectName name = some x.reference := by
    rcases (mem_sightings statement x).1 h with ⟨c, hc, rfl⟩ | ⟨m, hm, rfl⟩ | ⟨r, hr, rfl⟩
    · -- a common table expression is registered without a schema
      obtain ⟨-, hbare⟩ := (Reference.bare_eq_some_iff _ _).1 (bare_of_mem_namedCtes hc)
      rw [Sighting.reference, hbare] at hs
      cases hs
    · obtain ⟨c, -, hc, -, -⟩ := creation?_eq_some hm
      exact ⟨c.name, hc⟩
    · exact exists_name_of_reads hr hs
  obtain ⟨name, hname⟩ := hname
  exact ⟨name, x.reference, hname, hs, (Reference.fullName_of_ofObjectName hname).symm⟩

theorem Reference.mark_mem_render {name : Sql.ObjectName} {r : Reference} {s : String}
    (h : ofObjectName name = some r) (hs : r.schema = some s) :
    '.' ∈ (Sql.ObjectName.render name).toList ∨ '\x60' ∈ (Sql.ObjectName.render name).toList := by
  rw [Sql.ObjectName.toList_render]
  cases name with
  | nil => cases h
  | cons i name =>
    cases name with
    | nil =>
      refine .inr ?_
      rw [List.map_singleton, List.intercalate_singleton, Sql.Ident.render, quote_of_schema h hs]
      simp [Sql.quoted]
    | cons j name =>
      refine .inl ?_
      rw [List.map_cons, List.map_cons, List.intercalate_cons_cons]
      simp

open Sighting

/-- Where the node of `base` has the schema `s` and its full name from. Of these looks at the name
`x` is the first that tells a schema, and this is `s`. The full name is that of the last look after
`x` that creates the name, or that of `x` itself if none does; so schema and full name agree if that
look tells the same schema. Left open is only what a look that reads the name makes of a full name
which has no schema and yet is not the mere base. -/
def ToldBy (looks : List Sighting) (base : String) (n : Node) (s : String) : Prop :=
  ∃ before x after, looks = before ++ x :: after ∧
    (∀ y ∈ before, y.reference.schema = none) ∧ x.reference.schema = some s ∧
    ((lastCreated? after = none →
        x.creates = true ∨ ∀ y, named? before = some y → y.reference.fullName = base) →
      n.fullName = ((lastCreated? after).getD x).reference.fullName ∧
      (((lastCreated? after).getD x).reference.schema = some s → NamesIn s n.fullName))

/-- The schema of a node and its full name, in the graph of any script. -/
theorem lineage_told {dialect : Dialect} {guess : String → Kind} {sql : String} {g : Graph}
    (h : lineage dialect guess sql = .ok g) :
    ∃ script, Script.parse dialect sql = .ok script ∧
      ∀ base n s, g.nodes.find? base = some n → n.kind ≠ .cteView → n.schema = some s →
        ToldBy (heededAfter [] (sightingsAt base (script.statements.flatMap sightings)))
          base n s := by
  obtain ⟨script, hparse, rfl⟩ := lineage_eq_ok h
  refine ⟨script, hparse, fun base n s hfind hn hs => ?_⟩
  have hrun : (Builder.run guess script.statements).nodes.find? base = some n := hfind
  rw [Builder.run_nodes_eq] at hrun
  cases shows_run Builder.base_ne_of_mem_run hrun hn with
  | bare y untold schema =>
    rw [schema] at hs
    cases hs
  | qualified before x after s' looks_eq untold told schema fullName =>
    obtain rfl : s' = s := Option.some.inj (schema.symm.trans hs)
    refine ⟨before, x, after, looks_eq, untold, told, fun hplain => ?_⟩
    have hname := fullName hplain
    refine ⟨hname, fun hschema => ?_⟩
    have hmem := List.mem_append_right before (getD_lastCreated?_mem x after)
    rw [← looks_eq] at hmem
    have hlook := (mem_sightingsAt.1 (mem_of_mem_heededAfter hmem)).1
    obtain ⟨statement, -, hstatement⟩ := List.mem_flatMap.1 hlook
    rw [hname]
    exact namesIn_of_mem_sightings hstatement hschema

theorem lineage_told_later :
    lineage .generic (Guess.kindOf .table [])
        "CREATE VIEW v AS SELECT * FROM n; CREATE VIEW w AS SELECT * FROM db.n" =
      .ok ⟨[⟨"n", "v"⟩, ⟨"n", "w"⟩],
        [("n", ⟨.table, some "db", "db.n", none, true⟩),
          ("v", ⟨.view, none, "v", some "CREATE VIEW v AS SELECT * FROM n", false⟩),
          ("w", ⟨.view, none, "w", some "CREATE VIEW w AS SELECT * FROM db.n", false⟩)],
        [("db", 1)], []⟩ ∧
    ∃ script, Script.parse .generic
        "CREATE VIEW v AS SELECT * FROM n; CREATE VIEW w AS SELECT * FROM db.n" = .ok script ∧
      ToldBy (heededAfter [] (sightingsAt "n" (script.statements.flatMap sightings))) "n"
        ⟨.table, some "db", "db.n", none, true⟩ "db" := by
  have h : lineage .generic (Guess.kindOf .table [])
        "CREATE VIEW v AS SELECT * FROM n; CREATE VIEW w AS SELECT * FROM db.n" =
      .ok ⟨[⟨"n", "v"⟩, ⟨"n", "w"⟩],
        [("n", ⟨.table, some "db", "db.n", none, true⟩),
          ("v", ⟨.view, none, "v", some "CREATE VIEW v AS SELECT * FROM n", false⟩),
          ("w", ⟨.view, none, "w", some "CREATE VIEW w AS SELECT * FROM db.n", false⟩)],
        [("db", 1)], []⟩ := by
    decide +kernel
  obtain ⟨script, hparse, htold⟩ := lineage_told h
  exact ⟨h, script, hparse, htold "n" _ "db" rfl (by decide) rfl⟩

/-- The schema stays when a later statement creates the name without one, and the full name does
not. -/
theorem lineage_schema_outlives_name :
    ¬ ∀ (dialect : Dialect) (guess : String → Kind) (sql : String) (g : Graph),
      lineage dialect guess sql = .ok g → ∀ base n s, g.nodes.find? base = some n →
        n.kind ≠ .cteView → n.schema = some s → NamesIn s n.fullName := by
  intro hall
  have h : lineage .generic (Guess.kindOf .table [])
        "CREATE TABLE db.t (a INT); CREATE TABLE t (a INT)" =
      .ok ⟨[], [("t", ⟨.table, some "db", "t", some "CREATE TABLE t (a INT)", false⟩)],
        [("db", 1)], []⟩ := by
    decide +kernel
  obtain ⟨name, r, hname, hs, htext⟩ := hall _ _ _ _ h "t" _ "db" rfl (by decide) rfl
  have hmark := Reference.mark_mem_render hname hs
  rw [htext] at hmark
  exact absurd hmark (by decide)

end SqlLineage
