import SqlLineage.Graph.Cycle
import SqlLineage.Proofs.Traversal

/-! To reach each other is an equivalence of the numbers of a graph. What the traversals from a
number have in common, with the edges and against them, is its class; a number that is in none of
the classes found so far brings a class that is disjoint from all of them. -/

namespace SqlLineage.Numbered

variable {n : Numbered} {components : List (List Nat)} {i j k : Nat}

def Mutual (n : Numbered) (i j : Nat) : Prop := n.Reaches i j ∧ n.Reaches j i

theorem Mutual.refl (i : Nat) : n.Mutual i i := ⟨.refl, .refl⟩

theorem Mutual.symm (h : n.Mutual i j) : n.Mutual j i := ⟨h.2, h.1⟩

theorem Mutual.trans (h : n.Mutual i j) (h' : n.Mutual j k) : n.Mutual i k :=
  ⟨Relation.ReflTransGen.trans h.1 h'.1, Relation.ReflTransGen.trans h'.2 h.2⟩

theorem mem_component (n : Numbered) (i j : Nat) : j ∈ n.component i ↔ n.Mutual i j := by
  rw [component, List.mem_filter, List.contains_iff_mem, mem_visited, mem_visited,
    reaches_reversed, Mutual]

theorem component_nodup (n : Numbered) (i : Nat) : (n.component i).Nodup :=
  (n.visited_nodup i).filter _

structure Classes (n : Numbered) (components : List (List Nat)) : Prop where
  nodup : components.flatten.Nodup
  mem_iff : ∀ c ∈ components, ∀ i ∈ c, ∀ j, j ∈ c ↔ n.Mutual i j

/-- The strongly connected components of the graph, in any order and each in any order. -/
structure Components (n : Numbered) (components : List (List Nat)) : Prop
    extends Classes n components where
  covers : ∀ i, i ∈ components.flatten ↔ i < n.names.length

theorem classes_nil (n : Numbered) : n.Classes [] where
  nodup := List.nodup_nil
  mem_iff _ hc := absurd hc List.not_mem_nil

theorem any_contains_iff (components : List (List Nat)) (i : Nat) :
    components.any (·.contains i) = true ↔ i ∈ components.flatten := by
  simp only [List.any_eq_true, List.contains_iff_mem, List.mem_flatten]

theorem addComponent_of_mem (h : i ∈ components.flatten) :
    n.addComponent components i = components := by
  rw [addComponent, if_pos ((any_contains_iff components i).2 h)]

theorem addComponent_of_not_mem (h : i ∉ components.flatten) :
    n.addComponent components i = components ++ [n.component i] := by
  rw [addComponent, if_neg (mt (any_contains_iff components i).1 h)]

theorem mem_flatten_concat (components : List (List Nat)) (n : Numbered) (i j : Nat) :
    j ∈ (components ++ [n.component i]).flatten ↔ j ∈ components.flatten ∨ n.Mutual i j := by
  rw [List.flatten_append, List.flatten_singleton, List.mem_append, mem_component]

theorem Classes.addComponent (h : n.Classes components) (i : Nat) :
    n.Classes (n.addComponent components i) := by
  by_cases hi : i ∈ components.flatten
  · rwa [addComponent_of_mem hi]
  rw [addComponent_of_not_mem hi]
  constructor
  · rw [List.flatten_append, List.flatten_singleton, List.nodup_append]
    refine ⟨h.nodup, n.component_nodup i, fun j hj k hk hjk => ?_⟩
    subst hjk
    -- a class that has a number in common with that of `i` has `i`
    obtain ⟨c, hc, hj⟩ := List.mem_flatten.1 hj
    have hic := (h.mem_iff c hc j hj i).2 ((n.mem_component i j).1 hk).symm
    exact hi (List.mem_flatten.2 ⟨c, hc, hic⟩)
  · intro c hc j hj k
    rcases List.mem_append.1 hc with hc | hc
    · exact h.mem_iff c hc j hj k
    · obtain rfl := List.mem_singleton.1 hc
      rw [mem_component] at hj ⊢
      exact ⟨fun hk => hj.symm.trans hk, fun hk => hj.trans hk⟩

theorem mem_flatten_addComponent (components : List (List Nat)) (n : Numbered) (i : Nat) :
    i ∈ (n.addComponent components i).flatten ∧
      ∀ j, (j ∈ components.flatten → j ∈ (n.addComponent components i).flatten) ∧
        (j ∈ (n.addComponent components i).flatten → j ∈ components.flatten ∨ n.Mutual i j) := by
  by_cases hi : i ∈ components.flatten
  · rw [addComponent_of_mem hi]
    exact ⟨hi, fun j => ⟨id, .inl⟩⟩
  · rw [addComponent_of_not_mem hi]
    simp only [mem_flatten_concat]
    exact ⟨.inr (.refl i), fun j => ⟨.inl, id⟩⟩

theorem Classes.foldl_addComponent (h : n.Classes components) (is : List Nat) :
    n.Classes (is.foldl n.addComponent components) := by
  induction is generalizing components with
  | nil => exact h
  | cons i is ih => exact ih (h.addComponent i)

theorem mem_flatten_foldl_addComponent (n : Numbered) (is : List Nat)
    (components : List (List Nat)) (j : Nat) :
    (j ∈ components.flatten ∨ j ∈ is → j ∈ (is.foldl n.addComponent components).flatten) ∧
      (j ∈ (is.foldl n.addComponent components).flatten →
        j ∈ components.flatten ∨ ∃ i ∈ is, n.Mutual i j) := by
  induction is generalizing components with
  | nil => exact ⟨fun hj => hj.resolve_right List.not_mem_nil, .inl⟩
  | cons i is ih =>
    obtain ⟨hself, hstep⟩ := mem_flatten_addComponent components n i
    obtain ⟨hinto, hfrom⟩ := ih (n.addComponent components i)
    constructor
    · rintro (hj | hj)
      · exact hinto (.inl ((hstep j).1 hj))
      · rcases List.mem_cons.1 hj with rfl | hj
        · exact hinto (.inl hself)
        · exact hinto (.inr hj)
    · intro hj
      rcases hfrom hj with hj | ⟨k, hk, hmutual⟩
      · exact ((hstep j).2 hj).imp_right fun hmutual => ⟨i, List.mem_cons_self, hmutual⟩
      · exact .inr ⟨k, List.mem_cons_of_mem i hk, hmutual⟩

theorem lt_of_reaches (hends : ∀ e ∈ n.edges, e.2 < n.names.length) (h : n.Reaches i j)
    (hi : i < n.names.length) : j < n.names.length := by
  cases h with
  | refl => exact hi
  | tail _ hedge => exact hends _ hedge

theorem components_components (hends : ∀ e ∈ n.edges, e.2 < n.names.length) :
    n.Components n.components where
  toClasses := n.classes_nil.foldl_addComponent _
  covers j := by
    obtain ⟨hinto, hfrom⟩ := n.mem_flatten_foldl_addComponent (List.range n.names.length) [] j
    constructor
    · intro hj
      rcases hfrom hj with hnil | ⟨i, hi, hmutual⟩
      · cases hnil
      · exact lt_of_reaches hends hmutual.1 (List.mem_range.1 hi)
    · exact fun hj => hinto (.inr (List.mem_range.2 hj))

end SqlLineage.Numbered
