import SqlLineage.Proofs.Registry

/-! How a registry may change. A call touches the node of one name, and what the node was bounds
what it may become; the bound is kept from call to call, so it holds between any two states that a
registry goes through. -/

namespace SqlLineage

namespace Node

/-- What may become of a node; `defined` tells whether the name is defined in the meantime. -/
structure Becomes (defined : Bool) (n n' : Node) : Prop where
  cte : n.kind = .cteView → n' = n
  /-- Only a guess gives way to a lower kind, and only to a definition. -/
  kind : n.kind ≤ n'.kind ∨ n.inferred = true ∧ defined = true
  /-- A schema stays as long as the name is none of a common table expression. -/
  schema : ∀ s, n.schema = some s → n'.kind ≠ .cteView → n'.schema = some s
  schema_none : n.kind ≠ .cteView → n'.kind = .cteView → n'.schema = none
  definition : n.definition.isSome = true → n'.definition.isSome = true
  inferred : n.inferred = false → n'.inferred = false

namespace Becomes

theorem refl (defined : Bool) (n : Node) : Becomes defined n n where
  cte _ := rfl
  kind := .inl n.kind.le_refl
  schema _ h _ := h
  schema_none h h' := absurd h' h
  definition := id
  inferred := id

theorem trans {d d' : Bool} {n m k : Node} (h : Becomes d n m) (h' : Becomes d' m k) :
    Becomes (d || d') n k where
  cte hcte := by
    have hm : m = n := h.cte hcte
    rw [h'.cte (by rw [hm, hcte]), hm]
  kind := by
    rcases h.kind with hle | ⟨hinferred, hd⟩
    · rcases h'.kind with hle' | ⟨hinferred', hd'⟩
      · exact .inl (Kind.le_trans hle hle')
      · -- what is a guess in between was a guess from the start
        refine .inr ⟨?_, by rw [hd', Bool.or_true]⟩
        by_contra hn
        rw [h.inferred (Bool.eq_false_of_not_eq_true hn)] at hinferred'
        cases hinferred'
    · exact .inr ⟨hinferred, by rw [hd, Bool.true_or]⟩
  schema s hs hk := by
    have hm : m.kind ≠ .cteView := fun hcte => hk (by rw [h'.cte hcte, hcte])
    exact h'.schema s (h.schema s hs hm) hk
  schema_none hn hk := by
    by_cases hm : m.kind = .cteView
    · rw [h'.cte hm]
      exact h.schema_none hn hm
    · exact h'.schema_none hm hk
  definition hn := h'.definition (h.definition hn)
  inferred hn := h'.inferred (h.inferred hn)

end Becomes

theorem asCte_becomes {n : Node} (hn : n.kind ≠ .cteView) (base : String)
    (definition : Option String) : Becomes definition.isSome n (n.asCte base definition) where
  cte h := absurd h hn
  kind := .inl n.kind.le_cteView
  schema _ _ h := absurd rfl h
  schema_none _ _ := rfl
  definition h := by
    cases definition with
    | none => exact h
    | some _ => rfl
  inferred _ := rfl

theorem redefine_becomes {n : Node} {kind : Kind} {definition : Option String}
    (hn : n.kind ≠ .cteView) (hkind : kind ≠ .cteView)
    (h : n.inferred = true ∧ definition.isSome = true ∨ n.kind ≤ kind) (r : Reference) :
    Becomes definition.isSome n
      ((define { n with kind := kind } r.fullName definition).fillSchema r) where
  cte hcte := absurd hcte hn
  kind := by
    rw [fillSchema_kind, define_kind]
    exact h.symm
  schema s hs _ := by
    have hschema := define_schema { n with kind := kind } r.fullName definition
    rw [fillSchema_of_some (hschema.trans hs), hschema]
    exact hs
  schema_none _ hcte := by
    rw [fillSchema_kind, define_kind] at hcte
    exact absurd hcte hkind
  definition hn := by
    rw [fillSchema_definition]
    cases definition with
    | none => exact hn
    | some _ => rfl
  inferred hn := by
    rw [fillSchema_inferred]
    cases definition with
    | none => exact hn
    | some _ => rfl

theorem update_becomes (n : Node) (r : Reference) (kind : Kind) (definition : Option String) :
    Becomes definition.isSome n (n.update r kind definition) := by
  unfold update
  split
  · exact .refl _ n
  · rename_i hn
    split
    · exact asCte_becomes hn r.base definition
    · rename_i hkind
      split
      · rename_i h
        exact redefine_becomes hn hkind (by simpa using h) r
      · exact .refl _ n

end Node

namespace Registry

inductive Call
  | register (reference : Reference) (kind : Kind) (definition : Option String)
  | registerInferred (reference : Reference) (guess : Kind)

namespace Call

def reference : Call → Reference
  | register r _ _ => r
  | registerInferred r _ => r

def defines : Call → Bool
  | register _ _ definition => definition.isSome
  | registerInferred _ _ => false

def apply (nodes : Registry) : Call → Registry
  | register r kind definition => nodes.register r kind definition
  | registerInferred r guess => nodes.registerInferred r guess

def node (node? : Option Node) : Call → Node
  | register r kind definition => .registered node? r kind definition
  | registerInferred r guess => .mentioned node? r guess

def definesAt (base : String) (call : Call) : Bool :=
  call.reference.base == base && call.defines

theorem node_becomes (call : Call) (n : Node) : n.Becomes call.defines (call.node (some n)) := by
  cases call with
  | register r kind definition => exact n.update_becomes r kind definition
  | registerInferred r guess => exact n.update_becomes r n.kind none

theorem apply_of_base_eq {call : Call} (h : call.reference.base = "") (nodes : Registry) :
    call.apply nodes = nodes := by
  cases call with
  | register r kind definition =>
    have hr : r.base.isEmpty = true := by simpa [reference] using h
    rw [apply, Registry.register, if_pos hr]
  | registerInferred r guess =>
    have hr : r.base.isEmpty = true := by simpa [reference] using h
    rw [apply, Registry.registerInferred, if_pos hr]

theorem apply_of_base_ne {call : Call} (h : call.reference.base ≠ "") (nodes : Registry) :
    call.apply nodes =
      nodes.insert call.reference.base (call.node (nodes.find? call.reference.base)) := by
  cases call with
  | register r kind definition => exact register_eq h nodes kind definition
  | registerInferred r guess => exact registerInferred_eq h nodes guess

theorem filter_apply (call : Call) (nodes : Registry) :
    (call.apply nodes).filter (fun e => e.1 != call.reference.base) =
      nodes.filter fun e => e.1 != call.reference.base := by
  by_cases h : call.reference.base = ""
  · rw [apply_of_base_eq h]
  · rw [apply_of_base_ne h, Catalog.filter_insert]

theorem find?_apply_of_ne (call : Call) (nodes : Registry) {base : String}
    (hbase : base ≠ call.reference.base) : (call.apply nodes).find? base = nodes.find? base := by
  by_cases h : call.reference.base = ""
  · rw [apply_of_base_eq h]
  · rw [apply_of_base_ne h, Catalog.find?_insert, if_neg hbase]

theorem find?_apply_self (call : Call) {nodes : Registry} {n : Node}
    (hn : nodes.find? call.reference.base = some n) :
    ∃ n', (call.apply nodes).find? call.reference.base = some n' ∧ n.Becomes call.defines n' := by
  by_cases h : call.reference.base = ""
  · rw [apply_of_base_eq h]
    exact ⟨n, hn, .refl _ n⟩
  · rw [apply_of_base_ne h, Catalog.find?_insert, if_pos rfl, hn]
    exact ⟨_, rfl, call.node_becomes n⟩

theorem find?_apply (call : Call) {nodes : Registry} {base : String} {n : Node}
    (hn : nodes.find? base = some n) :
    ∃ n', (call.apply nodes).find? base = some n' ∧ n.Becomes (call.definesAt base) n' := by
  by_cases hbase : base = call.reference.base
  · subst hbase
    rw [definesAt, beq_self_eq_true, Bool.true_and]
    exact call.find?_apply_self hn
  · rw [call.find?_apply_of_ne nodes hbase]
    exact ⟨n, hn, .refl _ n⟩

theorem find?_foldl_apply (calls : List Call) {nodes : Registry} {base : String} {n : Node}
    (hn : nodes.find? base = some n) :
    ∃ n', (calls.foldl apply nodes).find? base = some n' ∧
      n.Becomes (calls.any (definesAt base)) n' := by
  induction calls generalizing nodes n with
  | nil => exact ⟨n, hn, .refl _ n⟩
  | cons call calls ih =>
    obtain ⟨m, hm, hbecomes⟩ := call.find?_apply hn
    obtain ⟨k, hk, hbecomes'⟩ := ih hm
    exact ⟨k, hk, hbecomes.trans hbecomes'⟩

end Call

def after (calls : List Call) : Registry := calls.foldl Call.apply []

theorem after_append (calls more : List Call) :
    after (calls ++ more) = more.foldl Call.apply (after calls) := List.foldl_append

/-- What one more call does to a registry that any calls have led to. It leaves all nodes but that
of its own name where and as they are; no name goes; and the node of its name becomes what `Becomes`
allows, given whether the call supplies a definition. The same then holds of any further calls. -/
theorem after_call (calls : List Call) (call : Call) :
    (after (calls ++ [call])).filter (fun e => e.1 != call.reference.base) =
        (after calls).filter (fun e => e.1 != call.reference.base) ∧
      (∀ base ∈ (after calls).names, base ∈ (after (calls ++ [call])).names) ∧
      (∀ n, (after calls).find? call.reference.base = some n →
        ∃ n', (after (calls ++ [call])).find? call.reference.base = some n' ∧
          n.Becomes call.defines n') ∧
      ∀ (more : List Call) (base : String) (n : Node), (after calls).find? base = some n →
        ∃ n', (after (calls ++ more)).find? base = some n' ∧
          n.Becomes (more.any (Call.definesAt base)) n' := by
  simp only [after_append, List.foldl_cons, List.foldl_nil]
  refine ⟨call.filter_apply _, ?_, fun n hn => call.find?_apply_self hn,
    fun more base n hn => Call.find?_foldl_apply more hn⟩
  intro base hbase
  obtain ⟨n, hn⟩ := (Catalog.mem_names_iff_find? _ base).1 hbase
  obtain ⟨n', hn', _⟩ := call.find?_apply hn
  exact (Catalog.mem_names_iff_find? _ base).2 ⟨n', hn'⟩

-- a guess gives way to a definition of a lower kind, which then stays
example :
    (after [.registerInferred ⟨"v", none, "v"⟩ .view, .register ⟨"v", none, "v"⟩ .table (some ""),
      .register ⟨"v", none, "v"⟩ .unknown (some "")]).kindOf? "v" = some .table := by
  decide +kernel

end Registry
end SqlLineage
