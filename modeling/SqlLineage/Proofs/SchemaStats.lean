import SqlLineage.Graph.Reach
import SqlLineage.Proofs.Catalog

/-! The counts of a graph are exact: a schema has an entry just if some node counts for it, and the
entry is the number of these nodes. -/

namespace SqlLineage

theorem find?_foldl_countIn (schemas : List String) (stats : Catalog Nat) (schema : String) :
    (schemas.foldl countIn stats).find? schema =
      if schema ∈ schemas then some ((stats.find? schema).getD 0 + schemas.count schema)
      else stats.find? schema := by
  induction schemas generalizing stats with
  | nil => rfl
  | cons s schemas ih =>
    rw [List.foldl_cons, ih, countIn, Catalog.find?_insert]
    by_cases hs : schema = s
    · subst hs
      rw [if_pos rfl, if_pos List.mem_cons_self, List.count_cons_self, Option.getD_some]
      split_ifs with hmem
      · rw [Nat.add_right_comm, Nat.add_assoc]
      · rw [List.count_eq_zero_of_not_mem hmem]
    · rw [if_neg hs, List.count_cons_of_ne (Ne.symm hs)]
      simp only [List.mem_cons, hs, false_or]

theorem sorted_foldl_countIn (schemas : List String) {stats : Catalog Nat} (h : stats.Sorted) :
    Catalog.Sorted (schemas.foldl countIn stats) := by
  induction schemas generalizing stats with
  | nil => exact h
  | cons s schemas ih => exact ih (h.insert s _)

theorem countedSchema?_eq_some (n : Node) (schema : String) :
    countedSchema? n = some schema ↔
      n.kind ≠ .cteView ∧ n.schema = some schema ∧ schema ≠ "" := by
  unfold countedSchema?
  split
  · rename_i hcte
    simp [hcte]
  · rename_i hcte
    rw [Option.filter_eq_some_iff]
    simp [hcte]

def schemaCount (nodes : List Node) (schema : String) : Nat :=
  nodes.countP fun n => decide (n.kind ≠ .cteView ∧ n.schema = some schema)

theorem count_countedSchemas {schema : String} (hschema : schema ≠ "") (nodes : List Node) :
    (nodes.filterMap countedSchema?).count schema = schemaCount nodes schema := by
  rw [schemaCount, List.count_filterMap]
  refine List.countP_congr fun n _ => ?_
  simp [countedSchema?_eq_some, hschema]

theorem sorted_schemaStats (nodes : List Node) : (schemaStats nodes).Sorted :=
  sorted_foldl_countIn _ Catalog.sorted_nil

theorem find?_schemaStats (nodes : List Node) (schema : String) (count : Nat) :
    (schemaStats nodes).find? schema = some count ↔
      schema ≠ "" ∧ 0 < count ∧ count = schemaCount nodes schema := by
  rw [schemaStats, find?_foldl_countIn]
  split_ifs with hmem
  · obtain ⟨n, _, hn⟩ := List.mem_filterMap.1 hmem
    have hschema : schema ≠ "" := ((countedSchema?_eq_some n schema).1 hn).2.2
    have hpos := List.count_pos_iff.2 hmem
    have hnil : (Catalog.find? ([] : Catalog Nat) schema).getD 0 = 0 := rfl
    rw [count_countedSchemas hschema] at hpos ⊢
    rw [hnil, Nat.zero_add, Option.some.injEq]
    constructor
    · rintro rfl
      exact ⟨hschema, hpos, rfl⟩
    · exact fun ⟨_, _, heq⟩ => heq.symm
  · constructor
    · exact nofun
    · rintro ⟨hschema, hpos, rfl⟩
      rw [← count_countedSchemas hschema] at hpos
      exact absurd (List.count_pos_iff.1 hpos) hmem

namespace Graph

def objectsOf (g : Graph) (schema : String) : List String :=
  Catalog.names (g.nodes.filter fun e => decide (e.2.kind ≠ .cteView ∧ e.2.schema = some schema))

theorem schemaCount_values (g : Graph) (schema : String) :
    schemaCount g.nodes.values schema = (g.objectsOf schema).length := by
  rw [schemaCount, Catalog.values, List.countP_map, List.countP_eq_length_filter, objectsOf,
    Catalog.names, List.length_map]
  rfl

/-- The counts of a graph are those of its own nodes. -/
structure CountsExactly (g : Graph) : Prop where
  sorted : g.stats.Sorted
  entry : ∀ schema, g.stats.contains schema = true ↔
    schema ≠ "" ∧ ∃ name n, (name, n) ∈ g.nodes ∧ n.kind ≠ .cteView ∧ n.schema = some schema
  count : ∀ schema count, g.stats.find? schema = some count → count = (g.objectsOf schema).length

theorem countsExactly_of_eq {g : Graph} (h : g.stats = schemaStats g.nodes.values) :
    g.CountsExactly where
  sorted := h ▸ sorted_schemaStats _
  entry schema := by
    rw [Catalog.contains, h, Option.isSome_iff_exists]
    simp only [find?_schemaStats]
    constructor
    · rintro ⟨count, hschema, hpos, rfl⟩
      obtain ⟨n, hn, hcounts⟩ := List.countP_pos_iff.1 hpos
      obtain ⟨⟨name, n⟩, hmem, rfl⟩ := List.mem_map.1 hn
      exact ⟨hschema, name, n, hmem, of_decide_eq_true hcounts⟩
    · rintro ⟨hschema, name, n, hmem, hcounts⟩
      have hpos : 0 < schemaCount g.nodes.values schema :=
        List.countP_pos_iff.2 ⟨n, List.mem_map.2 ⟨(name, n), hmem, rfl⟩, decide_eq_true hcounts⟩
      exact ⟨_, hschema, hpos, rfl⟩
  count schema count hcount := by
    rw [h, find?_schemaStats] at hcount
    rw [hcount.2.2, schemaCount_values]

theorem focus_stats {g g' : Graph} {names : List String} (h : g.focus names = some g') :
    g'.stats = schemaStats g'.nodes.values := by
  simp only [focus] at h
  split at h
  · cases h
  · cases h
    rfl

/-- The graph of any run, and the part of any graph around some names, count exactly the nodes that
they have. -/
theorem stats_exact :
    (∀ (guess : String → Kind) (statements : List Sql.Statement) (skipped : List Skipped),
      (ofBuilder (Builder.run guess statements) skipped).CountsExactly) ∧
    ∀ (g g' : Graph) (names : List String), g.focus names = some g' → g'.CountsExactly :=
  ⟨fun _ _ _ => countsExactly_of_eq rfl, fun _ _ _ h => countsExactly_of_eq (focus_stats h)⟩

/-- The counts of the whole are out of date, a table outside of the part has the same schema, and a
common table expression in it has one too: none of this gets into the counts of the part. -/
theorem stats_exact_narrowed :
    ∃ g', focus { edges := [⟨"a", "b"⟩, ⟨"c", "b"⟩, ⟨"d", "x"⟩],
                  nodes := [("a", ⟨.table, some "s", "s.a", none, true⟩),
                    ("b", ⟨.view, some "s", "s.b", some "", false⟩),
                    ("c", ⟨.cteView, some "s", "c", some "", false⟩),
                    ("d", ⟨.table, some "s", "s.d", none, true⟩)],
                  stats := [("old", 3), ("s", 7)] } ["b"] = some g' ∧
      g'.stats = [("s", 2)] ∧ g'.CountsExactly := by
  have h : (focus { edges := [⟨"a", "b"⟩, ⟨"c", "b"⟩, ⟨"d", "x"⟩],
                    nodes := [("a", ⟨.table, some "s", "s.a", none, true⟩),
                      ("b", ⟨.view, some "s", "s.b", some "", false⟩),
                      ("c", ⟨.cteView, some "s", "c", some "", false⟩),
                      ("d", ⟨.table, some "s", "s.d", none, true⟩)],
                    stats := [("old", 3), ("s", 7)] } ["b"]).map Graph.stats =
      some [("s", 2)] := by decide +kernel
  obtain ⟨g', hfocus, hstats⟩ := Option.map_eq_some_iff.1 h
  exact ⟨g', hfocus, hstats, stats_exact.2 _ g' ["b"] hfocus⟩

end Graph
end SqlLineage
