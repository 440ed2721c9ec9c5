import SqlLineage.Graph.Reach
import SqlLineage.Proofs.Numbering
import SqlLineage.Proofs.Traversal

/-! Paths between the names of a graph are the paths between their numbers, so the traversals of the
numbered graph find the names that a path leads to, and those that a path comes from. -/

namespace SqlLineage

def Leads (edges : List Edge) (a b : String) : Prop := (⟨a, b⟩ : Edge) ∈ edges

/-- A path of any length, none included, leads along the edges from one name to the other. -/
def Reaches (edges : List Edge) : String → String → Prop := Relation.ReflTransGen (Leads edges)

theorem reaches_congr {edges edges' : List Edge} (h : ∀ e, e ∈ edges ↔ e ∈ edges')
    (a b : String) : Reaches edges a b ↔ Reaches edges' a b := by
  have hleads : Leads edges = Leads edges' := by
    funext a b
    exact propext (h ⟨a, b⟩)
  rw [Reaches, Reaches, hleads]

namespace Graph

variable {g : Graph} {a b : String} {i j : Nat}

theorem has_of_leads (h : Leads g.edges a b) : g.Has a ∧ g.Has b :=
  ⟨.inr ⟨⟨a, b⟩, h, .inl rfl⟩, .inr ⟨⟨a, b⟩, h, .inr rfl⟩⟩

theorem has_iff_of_reaches (h : Reaches g.edges a b) : g.Has a ↔ g.Has b := by
  induction h with
  | refl => rfl
  | tail _ hedge ih =>
    obtain ⟨hb, hc⟩ := has_of_leads hedge
    exact ih.trans ⟨fun _ => hc, fun _ => hb⟩

theorem exists_indexOf?_iff_of_reaches (h : Reaches g.edges a b) :
    (∃ i, g.numbered.indexOf? a = some i) ↔ ∃ j, g.numbered.indexOf? b = some j := by
  rw [exists_indexOf?_numbered, exists_indexOf?_numbered, has_iff_of_reaches h]

theorem eq_of_indexOf? (ha : g.numbered.indexOf? a = some i)
    (hb : g.numbered.indexOf? b = some i) : a = b := by
  rw [g.paired_numbered.indexOf?_iff] at ha hb
  exact Option.some.inj (ha.symm.trans hb)

theorem mem_edges_numbered_iff (ha : g.numbered.indexOf? a = some i)
    (hb : g.numbered.indexOf? b = some j) : (i, j) ∈ g.numbered.edges ↔ Leads g.edges a b := by
  rw [mem_edges_numbered]
  constructor
  · rintro ⟨e, he, hdependency, hdependent⟩
    obtain rfl := eq_of_indexOf? ha hdependency
    obtain rfl := eq_of_indexOf? hb hdependent
    exact he
  · exact fun hedge => ⟨⟨a, b⟩, hedge, ha, hb⟩

theorem reaches_numbered_iff (ha : g.numbered.indexOf? a = some i)
    (hb : g.numbered.indexOf? b = some j) : g.numbered.Reaches i j ↔ Reaches g.edges a b := by
  constructor
  · intro hpath
    induction hpath generalizing b with
    | refl =>
      obtain rfl := eq_of_indexOf? ha hb
      exact .refl
    | tail _ hedge ih =>
      obtain ⟨e, _, hdependency, _⟩ := (g.mem_edges_numbered _ _).1 hedge
      exact .tail (ih hdependency) ((mem_edges_numbered_iff hdependency hb).1 hedge)
  · intro hpath
    induction hpath generalizing j with
    | refl =>
      obtain rfl := Option.some.inj (ha.symm.trans hb)
      exact .refl
    | tail _ hedge ih =>
      obtain ⟨k, hk⟩ := (g.exists_indexOf?_numbered _).2 (has_of_leads hedge).1
      exact .tail (ih hk) ((mem_edges_numbered_iff hk hb).2 hedge)

theorem mem_filterMap_name? (is : List Nat) (x : String) :
    x ∈ is.filterMap g.numbered.name? ↔ ∃ j ∈ is, g.numbered.indexOf? x = some j := by
  simp only [List.mem_filterMap, Numbered.name?, g.paired_numbered.indexOf?_iff]

theorem mem_visited_names (ha : g.numbered.indexOf? a = some i) (x : String) :
    x ∈ (g.numbered.visited i).filterMap g.numbered.name? ↔ Reaches g.edges a x := by
  simp only [mem_filterMap_name?, Numbered.mem_visited]
  constructor
  · rintro ⟨j, hpath, hx⟩
    exact (reaches_numbered_iff ha hx).1 hpath
  · intro hpath
    obtain ⟨j, hx⟩ := (exists_indexOf?_iff_of_reaches hpath).1 ⟨i, ha⟩
    exact ⟨j, (reaches_numbered_iff ha hx).2 hpath, hx⟩

theorem mem_visited_reversed_names (ha : g.numbered.indexOf? a = some i) (x : String) :
    x ∈ (g.numbered.reversed.visited i).filterMap g.numbered.name? ↔ Reaches g.edges x a := by
  simp only [mem_filterMap_name?, Numbered.mem_visited, Numbered.reaches_reversed]
  constructor
  · rintro ⟨j, hpath, hx⟩
    exact (reaches_numbered_iff hx ha).1 hpath
  · intro hpath
    obtain ⟨j, hx⟩ := (exists_indexOf?_iff_of_reaches hpath).2 ⟨i, ha⟩
    exact ⟨j, (reaches_numbered_iff hx ha).2 hpath, hx⟩

theorem mem_around (ha : g.numbered.indexOf? a = some i) (x : String) :
    x ∈ g.numbered.around i ↔ Reaches g.edges a x ∨ Reaches g.edges x a := by
  rw [Numbered.around, List.mem_append, mem_visited_names ha, mem_visited_reversed_names ha]

instance (name : String) : Decidable (g.Has name) :=
  decidable_of_iff ((g.numbered.indexOf? name).isSome) (by
    rw [Option.isSome_iff_exists, exists_indexOf?_numbered])

end Graph

instance (edges : List Edge) (a b : String) : Decidable (Reaches edges a b) :=
  let n := ({ edges := edges } : Graph).numbered
  decidable_of_iff
    (a = b ∨ (n.indexOf? a).any fun i => ((n.visited i).filterMap n.name?).contains b) (by
      let g : Graph := { edges := edges }
      simp only [Option.any_eq_true, List.contains_iff_mem]
      constructor
      · rintro (rfl | ⟨i, ha, hb⟩)
        · exact .refl
        · exact (Graph.mem_visited_names (g := g) ha b).1 hb
      · intro hpath
        rcases Relation.ReflTransGen.cases_head hpath with rfl | ⟨c, hedge, _⟩
        · exact .inl rfl
        · obtain ⟨i, ha⟩ := (g.exists_indexOf?_numbered a).2 (Graph.has_of_leads (g := g) hedge).1
          exact .inr ⟨i, ha, (Graph.mem_visited_names ha b).2 hpath⟩)

end SqlLineage
