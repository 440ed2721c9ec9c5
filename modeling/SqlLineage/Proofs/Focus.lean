import SqlLineage.Proofs.Reachability
import SqlLineage.Proofs.SchemaStats

/-! The part of a graph around some names is the graph on exactly those names that a path connects
with one of them, forwards or backwards but never both in turn. -/

namespace SqlLineage.Graph

variable (g : Graph)

/-- Some name of the graph among `names` reaches `x` or is reached from it. -/
def Around (names : List String) (x : String) : Prop :=
  ∃ name ∈ names, g.Has name ∧ (Reaches g.edges name x ∨ Reaches g.edges x name)

instance (names : List String) (x : String) : Decidable (g.Around names x) :=
  inferInstanceAs
    (Decidable (∃ name ∈ names, g.Has name ∧ (Reaches g.edges name x ∨ Reaches g.edges x name)))

def kept (names : List String) : List String :=
  (names.filterMap g.numbered.indexOf?).flatMap g.numbered.around

theorem mem_kept (names : List String) (x : String) : x ∈ g.kept names ↔ g.Around names x := by
  simp only [kept, List.mem_flatMap, List.mem_filterMap]
  constructor
  · rintro ⟨i, ⟨name, hname, hi⟩, hx⟩
    exact ⟨name, hname, (g.exists_indexOf?_numbered name).1 ⟨i, hi⟩, (mem_around hi x).1 hx⟩
  · rintro ⟨name, hname, hhas, hpath⟩
    obtain ⟨i, hi⟩ := (g.exists_indexOf?_numbered name).2 hhas
    exact ⟨i, ⟨name, hname, hi⟩, (mem_around hi x).2 hpath⟩

theorem focus_of_has {names : List String} (h : ∃ name ∈ names, g.Has name) :
    g.focus names = some (g.restrict (g.kept names)) := by
  obtain ⟨name, hname, hhas⟩ := h
  obtain ⟨i, hi⟩ := (g.exists_indexOf?_numbered name).2 hhas
  have hmem : i ∈ names.filterMap g.numbered.indexOf? := List.mem_filterMap.2 ⟨name, hname, hi⟩
  simp only [focus]
  split
  · rename_i hnil
    rw [hnil] at hmem
    cases hmem
  · rfl

theorem focus_eq_none_iff (names : List String) :
    g.focus names = none ↔ ∀ name ∈ names, ¬ g.Has name := by
  constructor
  · intro hnone name hname hhas
    rw [g.focus_of_has ⟨name, hname, hhas⟩] at hnone
    cases hnone
  · intro hnot
    have hnil : names.filterMap g.numbered.indexOf? = [] := by
      refine List.eq_nil_iff_forall_not_mem.2 fun i hmem => ?_
      obtain ⟨name, hname, hi⟩ := List.mem_filterMap.1 hmem
      exact hnot name hname ((g.exists_indexOf?_numbered name).1 ⟨i, hi⟩)
    simp only [focus, hnil]

section Restrict

variable {keep : List String} {p : String → Prop} [DecidablePred p]

theorem restrict_nodes (h : ∀ x, x ∈ keep ↔ p x) :
    (g.restrict keep).nodes = g.nodes.filter fun entry => decide (p entry.1) := by
  refine List.filter_congr fun entry _ => ?_
  rw [List.contains_eq_mem, decide_eq_decide]
  exact h entry.1

theorem restrict_edges (h : ∀ x, x ∈ keep ↔ p x) :
    (g.restrict keep).edges =
      g.edges.filter fun e => decide (p e.dependency ∧ p e.dependent) := by
  refine List.filter_congr fun e _ => ?_
  rw [List.contains_eq_mem, List.contains_eq_mem, Bool.decide_and, decide_eq_decide.2 (h _),
    decide_eq_decide.2 (h _)]

end Restrict

/-- The part of a graph around some names. There is none just if the graph has none of the names.
Otherwise it is made up of the nodes around the names, as they are, and of the edges between names
around the names, in their order and as often as they occur; it counts its own nodes, and it keeps
the list of what was skipped. -/
theorem focus_exact (names : List String) :
    (g.focus names = none ↔ ∀ name ∈ names, ¬ g.Has name) ∧
    ((∃ name ∈ names, g.Has name) → ∃ g', g.focus names = some g' ∧
      g'.nodes = g.nodes.filter (fun entry => decide (g.Around names entry.1)) ∧
      g'.edges = g.edges.filter (fun e =>
        decide (g.Around names e.dependency ∧ g.Around names e.dependent)) ∧
      g'.stats.Sorted ∧
      (∀ schema count, g'.stats.find? schema = some count ↔
        schema ≠ "" ∧ 0 < count ∧ count = schemaCount g'.nodes.values schema) ∧
      g'.skipped = g.skipped) := by
  refine ⟨g.focus_eq_none_iff names, fun h => ⟨_, g.focus_of_has h, ?_, ?_, ?_, ?_, rfl⟩⟩
  · exact g.restrict_nodes (g.mem_kept names)
  · exact g.restrict_edges (g.mem_kept names)
  · exact sorted_schemaStats _
  · exact find?_schemaStats _

-- what else reads `a`, and what else `c` reads, is not around `b`
example :
    (focus { edges := [⟨"a", "b"⟩, ⟨"a", "x"⟩, ⟨"b", "b"⟩, ⟨"b", "c"⟩, ⟨"y", "c"⟩, ⟨"a", "b"⟩] }
      ["b", "z"]).map Graph.edges = some [⟨"a", "b"⟩, ⟨"b", "b"⟩, ⟨"b", "c"⟩, ⟨"a", "b"⟩] := by
  decide +kernel

end SqlLineage.Graph
