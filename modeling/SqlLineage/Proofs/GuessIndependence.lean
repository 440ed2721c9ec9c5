import SqlLineage.Graph.Basic
import SqlLineage.Proofs.RegistryTransition
import SqlLineage.Proofs.RunEdges
import SqlLineage.Proofs.RunNodes

/-! Guesses stay where they are made. Take the guesses out of the nodes that a run leads to, and
what is left is the run in which nothing is ever guessed; so two runs over the same statements
differ in nothing but the kinds that are still guesses at the end. -/

namespace SqlLineage

namespace Node

def withoutGuess (n : Node) : Node := if n.inferred = true then { n with kind := .unknown } else n

def GuessIsPlain (n : Node) : Prop := n.inferred = true → n.kind ≠ .cteView

theorem withoutGuess_of_known {n : Node} (h : n.inferred = false) : n.withoutGuess = n := by
  rw [withoutGuess, h, if_neg Bool.false_ne_true]

theorem withoutGuess_of_inferred {n : Node} (h : n.inferred = true) :
    n.withoutGuess = { n with kind := .unknown } := by
  rw [withoutGuess, if_pos h]

theorem GuessIsPlain.of_known {n : Node} (h : n.inferred = false) : n.GuessIsPlain := by
  intro hinferred
  rw [h] at hinferred
  cases hinferred

theorem update_settles {n : Node} (hn : n.GuessIsPlain) {kind : Kind} {definition : Option String}
    (h : kind = .cteView ∨ definition.isSome = true) (r : Reference) :
    n.withoutGuess.update r kind definition = n.update r kind definition ∧
      (n.update r kind definition).inferred = false := by
  cases hinferred : n.inferred with
  | false =>
    rw [withoutGuess_of_known hinferred]
    exact ⟨rfl, (n.update_becomes r kind definition).inferred hinferred⟩
  | true =>
    have hkind : n.kind ≠ .cteView := hn hinferred
    have hunknown : Kind.unknown ≠ .cteView := Kind.noConfusion
    rw [withoutGuess_of_inferred hinferred, update, update, if_neg hkind, if_neg hunknown]
    by_cases hcte : kind = .cteView
    · rw [if_pos hcte, if_pos hcte]
      exact ⟨rfl, rfl⟩
    · obtain ⟨text, rfl⟩ := Option.isSome_iff_exists.1 (h.resolve_left hcte)
      have hcond : ∀ k : Kind, (n.inferred && (some text).isSome || k ≤ kind) = true := by
        simp [hinferred]
      rw [if_neg hcte, if_neg hcte, if_pos (hcond .unknown), if_pos (hcond n.kind)]
      exact ⟨rfl, fillSchema_inferred _ r⟩

theorem registered_settles {node? : Option Node} (hnode : ∀ n ∈ node?, n.GuessIsPlain)
    {kind : Kind} {definition : Option String}
    (h : kind = .cteView ∨ definition.isSome = true) (r : Reference) :
    registered (node?.map withoutGuess) r kind definition = registered node? r kind definition ∧
      (registered node? r kind definition).inferred = false := by
  cases node? with
  | none => exact ⟨rfl, first_inferred r kind definition⟩
  | some n => exact update_settles (hnode n rfl) h r

theorem mentioned_withoutGuess {node? : Option Node} (hnode : ∀ n ∈ node?, n.GuessIsPlain)
    {guess : Kind} (hguess : guess ≠ .cteView) (r : Reference) :
    (mentioned node? r guess).withoutGuess = mentioned (node?.map withoutGuess) r .unknown ∧
      (mentioned node? r guess).GuessIsPlain := by
  cases node? with
  | none =>
    simp only [mentioned, Option.map_none, first_of_ne hguess]
    exact ⟨rfl, fun _ => hguess⟩
  | some n =>
    obtain ⟨hkind, hkeeps, -⟩ := n.update_self r
    simp only [mentioned, Option.map_some]
    refine ⟨?_, fun hinferred => ?_⟩
    · cases hinferred : n.inferred with
      | false =>
        rw [withoutGuess_of_known (hkeeps.trans hinferred), withoutGuess_of_known hinferred]
      | true =>
        have hcte : n.kind ≠ .cteView := hnode n rfl hinferred
        rw [withoutGuess_of_inferred (hkeeps.trans hinferred), withoutGuess_of_inferred hinferred,
          update_self_eq hcte]
        exact (fillSchema_setKind n r .unknown).symm.trans
          (update_self_eq (n := { n with kind := .unknown }) Kind.noConfusion r).symm
    · rw [hkind]
      exact hnode n rfl (hkeeps.symm.trans hinferred)

theorem countedSchema?_withoutGuess {n : Node} (hn : n.GuessIsPlain) :
    countedSchema? n.withoutGuess = countedSchema? n := by
  cases hinferred : n.inferred with
  | false => rw [withoutGuess_of_known hinferred]
  | true =>
    rw [withoutGuess_of_inferred hinferred, countedSchema?, countedSchema?, if_neg (hn hinferred),
      if_neg Kind.noConfusion]

theorem withoutGuess_inferred (n : Node) : n.withoutGuess.inferred = n.inferred := by
  unfold withoutGuess
  split <;> rfl

/-- Nodes that agree in all but a kind that both guess. -/
structure EqualUpToGuess (n n' : Node) : Prop where
  schema : n.schema = n'.schema
  fullName : n.fullName = n'.fullName
  definition : n.definition = n'.definition
  inferred : n.inferred = n'.inferred
  kind : n.kind ≠ n'.kind → n.inferred = true ∧ n'.inferred = true

theorem EqualUpToGuess.of_withoutGuess {n n' : Node} (h : n.withoutGuess = n'.withoutGuess) :
    EqualUpToGuess n n' := by
  have hinferred : n.inferred = n'.inferred := by
    rw [← n.withoutGuess_inferred, h, withoutGuess_inferred]
  cases hn : n.inferred with
  | false =>
    rw [withoutGuess_of_known hn, withoutGuess_of_known (hinferred.symm.trans hn)] at h
    subst h
    exact ⟨rfl, rfl, rfl, rfl, fun hne => absurd rfl hne⟩
  | true =>
    have hn' : n'.inferred = true := hinferred.symm.trans hn
    rw [withoutGuess_of_inferred hn, withoutGuess_of_inferred hn', Node.mk.injEq] at h
    obtain ⟨-, hschema, hfullName, hdefinition, -⟩ := h
    exact ⟨hschema, hfullName, hdefinition, hinferred, fun _ => ⟨hn, hn'⟩⟩

end Node

namespace Sighting

variable {guess : String → Kind}

/-- One look at a name commutes with taking the guess out of its node. -/
theorem node_withoutGuess (hguess : ∀ base, guess base ≠ .cteView) (x : Sighting)
    {node? : Option Node} (hnode : ∀ n ∈ node?, n.GuessIsPlain) :
    (x.node guess node?).withoutGuess =
        x.node (fun _ => .unknown) (node?.map Node.withoutGuess) ∧
      (x.node guess node?).GuessIsPlain := by
  have hsettles : ∀ (r : Reference) (kind : Kind) (definition : Option String),
      kind = .cteView ∨ definition.isSome = true →
      (Node.registered node? r kind definition).withoutGuess =
          Node.registered (node?.map Node.withoutGuess) r kind definition ∧
        (Node.registered node? r kind definition).GuessIsPlain := by
    intro r kind definition h
    obtain ⟨heq, hknown⟩ := Node.registered_settles hnode h r
    exact ⟨(Node.withoutGuess_of_known hknown).trans heq.symm, .of_known hknown⟩
  cases x with
  | declared c => exact hsettles _ _ _ (.inl rfl)
  | created r kind definition => exact hsettles _ _ _ (.inr rfl)
  | read scope r =>
    simp only [node]
    split
    · exact hsettles _ _ _ (.inl rfl)
    · exact Node.mentioned_withoutGuess hnode (hguess r.base) r

theorem foldl_node_withoutGuess (hguess : ∀ base, guess base ≠ .cteView) (looks : List Sighting)
    {node? : Option Node} (hnode : ∀ n ∈ node?, n.GuessIsPlain) :
    (looks.foldl (fun node? x => some (x.node guess node?)) node?).map Node.withoutGuess =
        looks.foldl (fun node? x => some (x.node (fun _ => .unknown) node?))
          (node?.map Node.withoutGuess) ∧
      ∀ n ∈ looks.foldl (fun node? x => some (x.node guess node?)) node?, n.GuessIsPlain := by
  induction looks generalizing node? with
  | nil => exact ⟨rfl, hnode⟩
  | cons x looks ih =>
    obtain ⟨heq, hplain⟩ := x.node_withoutGuess hguess hnode
    have hnext : ∀ n ∈ some (x.node guess node?), n.GuessIsPlain := by
      rintro n ⟨⟩
      exact hplain
    rw [List.foldl_cons, List.foldl_cons, ← heq]
    exact ih hnext

end Sighting

namespace Builder

variable {guess : String → Kind}

theorem find?_run_withoutGuess (hguess : ∀ base, guess base ≠ .cteView)
    (ss : List Sql.Statement) (base : String) :
    ((run guess ss).nodes.find? base).map Node.withoutGuess =
        (run (fun _ => .unknown) ss).nodes.find? base ∧
      ∀ n ∈ (run guess ss).nodes.find? base, n.GuessIsPlain := by
  rw [run_nodes_eq, run_nodes_eq, Sighting.find?_foldl_apply _ _ base_ne_of_mem_run,
    Sighting.find?_foldl_apply _ _ base_ne_of_mem_run]
  exact Sighting.foldl_node_withoutGuess hguess _ nofun

theorem summary_withoutGuess_run (hguess : ∀ base, guess base ≠ .cteView)
    (ss : List Sql.Statement) :
    Catalog.summary Node.withoutGuess (run guess ss).nodes =
      (run (fun _ => .unknown) ss).nodes := by
  refine ((run_nodes_sorted guess ss).summary _).ext (run_nodes_sorted _ ss) fun base => ?_
  rw [Catalog.find?_summary]
  exact (find?_run_withoutGuess hguess ss base).1

theorem schemaStats_run (hguess : ∀ base, guess base ≠ .cteView) (ss : List Sql.Statement) :
    schemaStats (run guess ss).nodes.values =
      schemaStats (run (fun _ => .unknown) ss).nodes.values := by
  have hcounted : ∀ n ∈ (run guess ss).nodes.values,
      countedSchema? n.withoutGuess = countedSchema? n := by
    intro n hn
    obtain ⟨⟨base, _⟩, hmem, rfl⟩ := List.mem_map.1 hn
    have hfind := ((run_nodes_sorted guess ss).mem_iff_find? base _).1 hmem
    exact Node.countedSchema?_withoutGuess ((find?_run_withoutGuess hguess ss base).2 _ hfind)
  rw [← summary_withoutGuess_run hguess, Catalog.values_summary, schemaStats, schemaStats,
    List.filterMap_map, ← List.filterMap_congr hcounted]
  rfl

end Builder

namespace Graph

variable {guess guess' : String → Kind}

/-- Graphs that agree in all but kinds that are guesses in both. -/
structure EqualUpToGuesses (g g' : Graph) : Prop where
  edges : g.edges = g'.edges
  names : g.nodes.names = g'.nodes.names
  stats : g.stats = g'.stats
  nodes : ∀ base n n', g.node? base = some n → g'.node? base = some n' → n.EqualUpToGuess n'

/-- However kinds are guessed, the statements lead to the same graph but for the kinds that are
still guesses at the end. -/
theorem ofBuilder_run_equalUpToGuesses (hguess : ∀ base, guess base ≠ .cteView)
    (hguess' : ∀ base, guess' base ≠ .cteView) (ss : List Sql.Statement)
    (skipped : List Skipped) :
    EqualUpToGuesses (ofBuilder (Builder.run guess ss) skipped)
      (ofBuilder (Builder.run guess' ss) skipped) := by
  have hsummary : Catalog.summary Node.withoutGuess (Builder.run guess ss).nodes =
      Catalog.summary Node.withoutGuess (Builder.run guess' ss).nodes := by
    rw [Builder.summary_withoutGuess_run hguess, Builder.summary_withoutGuess_run hguess']
  constructor
  case edges => exact (Builder.run_edges_eq guess ss).trans (Builder.run_edges_eq guess' ss).symm
  case names =>
    have hnames := congrArg Catalog.names hsummary
    rwa [Catalog.names_summary, Catalog.names_summary] at hnames
  case stats =>
    exact (Builder.schemaStats_run hguess ss).trans (Builder.schemaStats_run hguess' ss).symm
  case nodes =>
    intro base n n' hn hn'
    have hfound : (Builder.run guess ss).nodes.find? base = some n := hn
    have hfound' : (Builder.run guess' ss).nodes.find? base = some n' := hn'
    have hfind := congrArg (Catalog.find? · base) hsummary
    simp only [Catalog.find?_summary, hfound, hfound', Option.map_some] at hfind
    exact .of_withoutGuess (Option.some.inj hfind)

/-- A view reads two names that look like views, and one of them is then created as a table. -/
def openGuess : List Sql.Statement :=
  [⟨⟨"CREATE VIEW s.v AS SELECT * FROM s.a_view, s.b_view", []⟩,
    .createView [.bare "s", .bare "v"] false
      { body := ⟨"SELECT * FROM s.a_view, s.b_view",
          [.table [.bare "s", .bare "a_view"] false, .table [.bare "s", .bare "b_view"] false]⟩ }⟩,
  ⟨⟨"CREATE TABLE b_view (a INT)", []⟩, .createTable [.bare "b_view"] none⟩]

/-- The other name is a view by its look, or nothing known, and this is all that the graphs differ
in. -/
theorem ofBuilder_run_equalUpToGuesses_open_guess :
    (∀ base, Guess.kindOf .naming Guess.defaultMarkers base ≠ .cteView) ∧
    (∀ base, Guess.kindOf .unknown [] base ≠ .cteView) ∧
    Catalog.summary (fun n => (n.kind, n.inferred))
        (Builder.run (Guess.kindOf .naming Guess.defaultMarkers) openGuess).nodes =
      [("a_view", .view, true), ("b_view", .table, false), ("v", .view, false)] ∧
    Catalog.summary (fun n => (n.kind, n.inferred))
        (Builder.run (Guess.kindOf .unknown []) openGuess).nodes =
      [("a_view", .unknown, true), ("b_view", .table, false), ("v", .view, false)] ∧
    EqualUpToGuesses
      (ofBuilder (Builder.run (Guess.kindOf .naming Guess.defaultMarkers) openGuess) [])
      (ofBuilder (Builder.run (Guess.kindOf .unknown []) openGuess) []) := by
  refine ⟨Guess.kindOf_ne_cteView .naming _, Guess.kindOf_ne_cteView .unknown _, ?_, ?_, ?_⟩
  · decide +kernel
  · decide +kernel
  · exact ofBuilder_run_equalUpToGuesses (Guess.kindOf_ne_cteView .naming _)
      (Guess.kindOf_ne_cteView .unknown _) openGuess []

end Graph
end SqlLineage
