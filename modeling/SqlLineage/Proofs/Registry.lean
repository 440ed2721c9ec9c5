import SqlLineage.Proofs.Catalog
import SqlLineage.Proofs.Reference

/-! The registry name by name. Registering a reference touches the node of its base only, and what
becomes of that node depends on the node alone. -/

namespace SqlLineage

namespace Kind

theorem le_refl (a : Kind) : a ≤ a := Nat.le_refl a.rank

theorem le_trans {a b c : Kind} (hab : a ≤ b) (hbc : b ≤ c) : a ≤ c := Nat.le_trans hab hbc

theorem le_of_not_le {a b : Kind} (h : ¬ a ≤ b) : b ≤ a := Nat.le_of_not_le h

theorem le_cteView (a : Kind) : a ≤ .cteView := by
  cases a <;> decide

theorem rank_injective {a b : Kind} (h : a.rank = b.rank) : a = b := by
  cases a <;> cases b <;> first | rfl | cases h

theorem le_antisymm {a b : Kind} (hab : a ≤ b) (hba : b ≤ a) : a = b :=
  rank_injective (Nat.le_antisymm hab hba)

end Kind

namespace Node

theorem first_inferred (r : Reference) (kind : Kind) (definition : Option String) :
    (first r kind definition).inferred = false := by
  unfold first
  split <;> rfl

theorem first_of_ne {kind : Kind} (h : kind ≠ .cteView) (r : Reference)
    (definition : Option String) :
    first r kind definition = ⟨kind, r.schema, r.fullName, definition, false⟩ := if_neg h

@[simp] theorem define_kind (n : Node) (fullName : String) (definition : Option String) :
    (n.define fullName definition).kind = n.kind := by
  cases definition <;> rfl

@[simp] theorem define_schema (n : Node) (fullName : String) (definition : Option String) :
    (n.define fullName definition).schema = n.schema := by
  cases definition <;> rfl

@[simp] theorem fillSchema_kind (n : Node) (r : Reference) : (n.fillSchema r).kind = n.kind := by
  unfold fillSchema
  split <;> rfl

@[simp] theorem fillSchema_inferred (n : Node) (r : Reference) :
    (n.fillSchema r).inferred = n.inferred := by
  unfold fillSchema
  split <;> rfl

@[simp] theorem fillSchema_definition (n : Node) (r : Reference) :
    (n.fillSchema r).definition = n.definition := by
  unfold fillSchema
  split <;> rfl

theorem fillSchema_of_some {n : Node} {s : String} (h : n.schema = some s) (r : Reference) :
    n.fillSchema r = n := by
  rw [fillSchema, h]

theorem fillSchema_schema (n : Node) (r : Reference) :
    (n.fillSchema r).schema = n.schema.or r.schema := by
  obtain ⟨_, schema, _, _, _⟩ := n
  unfold fillSchema
  cases schema <;> cases r.schema <;> rfl

theorem fillSchema_of_none {r : Reference} (h : r.schema = none) (n : Node) :
    n.fillSchema r = n := by
  obtain ⟨_, schema, _, _, _⟩ := n
  rw [fillSchema, h]
  cases schema <;> rfl

theorem fillSchema_fullName {n : Node} {r : Reference} {s : String} (h : n.schema = none)
    (hr : r.schema = some s) :
    (n.fillSchema r).fullName = if n.fullName = r.base then r.fullName else n.fullName := by
  rw [fillSchema, h, hr]

theorem fillSchema_setKind (n : Node) (r : Reference) (kind : Kind) :
    fillSchema { n with kind := kind } r = { n.fillSchema r with kind := kind } := by
  obtain ⟨_, schema, _, _, _⟩ := n
  unfold fillSchema
  cases schema <;> cases r.schema <;> rfl

theorem update_of_cteView {n : Node} (h : n.kind = .cteView) (r : Reference) (kind : Kind)
    (definition : Option String) : n.update r kind definition = n := by
  rw [update, if_pos h]

theorem update_cteView_kind (n : Node) (r : Reference) (definition : Option String) :
    (n.update r .cteView definition).kind = .cteView := by
  unfold update
  split
  · assumption
  · rfl

theorem update_cteView_inferred {n : Node} (h : n.kind = .cteView → n.inferred = false)
    (r : Reference) (definition : Option String) :
    (n.update r .cteView definition).inferred = false := by
  unfold update
  split
  · rename_i hcte
    exact h hcte
  · rfl

theorem update_self_eq {n : Node} (h : n.kind ≠ .cteView) (r : Reference) :
    n.update r n.kind none = n.fillSchema r := by
  have hle : (n.inferred && (none : Option String).isSome || n.kind ≤ n.kind) = true := by
    simp [n.kind.le_refl]
  rw [update, if_neg h, if_neg h, if_pos hle]
  rfl

theorem update_self (n : Node) (r : Reference) :
    (n.update r n.kind none).kind = n.kind ∧
      (n.update r n.kind none).inferred = n.inferred ∧
      (n.update r n.kind none).definition = n.definition := by
  by_cases hcte : n.kind = .cteView
  · rw [update_of_cteView hcte]
    exact ⟨rfl, rfl, rfl⟩
  · rw [update_self_eq hcte]
    exact ⟨fillSchema_kind n r, fillSchema_inferred n r, fillSchema_definition n r⟩

/-- A definition of a kind that is high enough, or of a name that was only guessed at, counts. -/
theorem update_defined {n : Node} {kind : Kind} (hn : n.kind ≠ .cteView) (hkind : kind ≠ .cteView)
    (h : n.inferred = true ∨ n.kind ≤ kind) (r : Reference) (definition : String) :
    (n.update r kind (some definition)).kind = kind ∧
      (n.update r kind (some definition)).inferred = false := by
  have hcond : (n.inferred && (some definition).isSome || n.kind ≤ kind) = true := by
    simpa using h
  rw [update, if_neg hn, if_neg hkind, if_pos hcond]
  simp [define]

theorem update_outranked {n : Node} {kind : Kind} (hkind : kind ≠ .cteView)
    (hinferred : n.inferred = false) (h : ¬ n.kind ≤ kind) (r : Reference)
    (definition : Option String) : n.update r kind definition = n := by
  unfold update
  simp [hkind, hinferred, h]

def registered (node? : Option Node) (r : Reference) (kind : Kind) (definition : Option String) :
    Node :=
  match node? with
  | none => .first r kind definition
  | some n => n.update r kind definition

def mentioned (node? : Option Node) (r : Reference) (guess : Kind) : Node :=
  match node? with
  | none => { Node.first r guess none with inferred := true }
  | some n => n.update r n.kind none

end Node

namespace Registry

theorem register_eq {r : Reference} (hr : r.base ≠ "") (nodes : Registry) (kind : Kind)
    (definition : Option String) :
    nodes.register r kind definition =
      nodes.insert r.base (Node.registered (nodes.find? r.base) r kind definition) := by
  rw [register, if_neg (by simpa using hr)]
  cases nodes.find? r.base <;> rfl

theorem registerInferred_eq {r : Reference} (hr : r.base ≠ "") (nodes : Registry) (guess : Kind) :
    nodes.registerInferred r guess =
      nodes.insert r.base (Node.mentioned (nodes.find? r.base) r guess) := by
  rw [registerInferred, if_neg (by simpa using hr)]
  cases nodes.find? r.base <;> rfl

end Registry
end SqlLineage
