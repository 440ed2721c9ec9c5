import SqlLineage.Proofs.RegistryTransition

/-! What a registry never holds: a node without a name, a common table expression with a schema or
with another name than its own, and a guess that comes with a definition. No call checks for any of
this. Each way in which a call writes a node keeps it. -/

namespace SqlLineage

theorem Catalog.mem_of_find? {α : Type} {catalog : Catalog α} {name : String} {value : α}
    (h : catalog.find? name = some value) : (name, value) ∈ catalog := by
  obtain ⟨before, after, rfl, -⟩ := List.lookup_eq_some_iff.1 h
  exact List.mem_append_right before List.mem_cons_self

namespace Node

structure Sound (base : String) (n : Node) : Prop where
  cte : n.kind = .cteView → n.schema = none ∧ n.fullName = base
  guess : n.inferred = true → n.definition = none

theorem first_sound (r : Reference) (kind : Kind) (definition : Option String) :
    (first r kind definition).Sound r.base := by
  constructor
  · intro hcte
    by_cases hkind : kind = .cteView
    · subst hkind
      exact ⟨rfl, rfl⟩
    · rw [first_of_ne hkind] at hcte
      exact absurd hcte hkind
  · intro hinferred
    rw [first_inferred] at hinferred
    cases hinferred

theorem guessed_sound (r : Reference) (kind : Kind) :
    Sound r.base { first r kind none with inferred := true } := by
  have hfirst := first_sound r kind none
  refine ⟨hfirst.cte, fun _ => ?_⟩
  unfold first
  split <;> rfl

theorem asCte_sound (n : Node) (base : String) (definition : Option String) :
    (n.asCte base definition).Sound base := by
  refine ⟨fun _ => ⟨rfl, rfl⟩, fun hinferred => ?_⟩
  cases hinferred

theorem redefine_sound {n : Node} {base : String} (h : n.Sound base) {kind : Kind}
    (hkind : kind ≠ .cteView) (r : Reference) (definition : Option String) :
    Sound base ((define { n with kind := kind } r.fullName definition).fillSchema r) := by
  constructor
  · intro hcte
    rw [fillSchema_kind, define_kind] at hcte
    exact absurd hcte hkind
  · intro hinferred
    rw [fillSchema_inferred] at hinferred
    rw [fillSchema_definition]
    cases definition with
    | none => exact h.guess hinferred
    | some text =>
      -- a definition ends the guess
      have hdefined :
          (define { n with kind := kind } r.fullName (some text)).inferred = false := rfl
      rw [hdefined] at hinferred
      cases hinferred

theorem update_sound {n : Node} {r : Reference} (h : n.Sound r.base) (kind : Kind)
    (definition : Option String) : (n.update r kind definition).Sound r.base := by
  unfold update
  split
  · exact h
  · split
    · exact n.asCte_sound r.base definition
    · rename_i hkind
      split
      · exact redefine_sound h hkind r definition
      · exact h

end Node

namespace Registry

def Sound (nodes : Registry) : Prop := ∀ e ∈ nodes, e.1 ≠ "" ∧ e.2.Sound e.1

namespace Call

theorem node_sound (call : Call) {node? : Option Node}
    (h : ∀ n, node? = some n → n.Sound call.reference.base) :
    (call.node node?).Sound call.reference.base := by
  cases call with
  | register r kind definition =>
    cases node? with
    | none => exact Node.first_sound r kind definition
    | some n => exact Node.update_sound (h n rfl) kind definition
  | registerInferred r guess =>
    cases node? with
    | none => exact Node.guessed_sound r guess
    | some n => exact Node.update_sound (h n rfl) n.kind none

theorem apply_sound (call : Call) {nodes : Registry} (h : nodes.Sound) :
    (call.apply nodes).Sound := by
  by_cases hbase : call.reference.base = ""
  · rw [apply_of_base_eq hbase]
    exact h
  · have hnode : (call.node (nodes.find? call.reference.base)).Sound call.reference.base :=
      call.node_sound fun n hn => (h _ (Catalog.mem_of_find? hn)).2
    intro e he
    rw [apply_of_base_ne hbase] at he
    rcases Catalog.mem_of_mem_insert he with rfl | he
    · exact ⟨hbase, hnode⟩
    · exact h e he

theorem foldl_apply_sound (calls : List Call) {nodes : Registry} (h : nodes.Sound) :
    Registry.Sound (calls.foldl apply nodes) := by
  induction calls generalizing nodes with
  | nil => exact h
  | cons call calls ih => exact ih (call.apply_sound h)

end Call

/-- After any calls, with any references and in any order, every entry has a name, a common table
expression has no schema and is shown by its bare name, and what is guessed has no definition. -/
theorem after_entry (calls : List Call) {base : String} {n : Node} (h : (base, n) ∈ after calls) :
    base ≠ "" ∧ (n.kind = .cteView → n.schema = none ∧ n.fullName = base) ∧
      (n.inferred = true → n.definition = none) := by
  have hempty : Registry.Sound [] := fun e he => absurd he List.not_mem_nil
  obtain ⟨hbase, hsound⟩ := Call.foldl_apply_sound calls hempty _ h
  exact ⟨hbase, hsound.cte, hsound.guess⟩

/-- A table with a schema that turns into a common table expression and is then defined once more,
beside a guess that is mentioned again under a schema. -/
theorem after_entry_promoted :
    ∃ c g, after [.register ⟨"db.c", some "db", "c"⟩ .table none,
        .registerInferred ⟨"g", none, "g"⟩ .view, .registerInferred ⟨"x", some "x", ""⟩ .view,
        .register ⟨"c", none, "c"⟩ .cteView (some "c AS (SELECT 1)"),
        .register ⟨"s.c", some "s", "c"⟩ .view (some "CREATE VIEW s.c"),
        .register ⟨"s.g", some "s", "g"⟩ .view none] = [("c", c), ("g", g)] ∧
      (c.kind = .cteView ∧ c.schema = none ∧ c.fullName = "c") ∧
      g.inferred = true ∧ g.definition = none := by
  have hentries : ∀ {calls : List Call} {c g : Node}, after calls = [("c", c), ("g", g)] →
      c.kind = .cteView → g.inferred = true →
      (c.kind = .cteView ∧ c.schema = none ∧ c.fullName = "c") ∧
        g.inferred = true ∧ g.definition = none := by
    intro calls c g h hc hg
    have hcmem : ("c", c) ∈ after calls := h ▸ List.mem_cons_self
    have hgmem : ("g", g) ∈ after calls := h ▸ List.mem_cons_of_mem _ List.mem_cons_self
    exact ⟨⟨hc, (after_entry calls hcmem).2.1 hc⟩, hg, (after_entry calls hgmem).2.2 hg⟩
  refine ⟨⟨.cteView, none, "c", some "c AS (SELECT 1)", false⟩,
    ⟨.view, some "s", "s.g", none, true⟩, ?_⟩
  exact (and_iff_left_of_imp fun h => hentries h rfl rfl).2 (by decide +kernel)

end Registry
end SqlLineage
