import SqlLineage.Proofs.RunHistory

/-! The edges of a whole run. They are the edges of its statements one after the other, without
loops and without repetitions, whatever the registry holds and however kinds are guessed. -/

namespace SqlLineage

namespace EdgeSet

/-- The first of equal edges, and no edge from a name to itself. -/
def simple (es : List Edge) : List Edge :=
  (es.filter fun e => e.dependency != e.dependent).eraseDups

theorem mem_simple (es : List Edge) (e : Edge) :
    e ∈ simple es ↔ e ∈ es ∧ e.dependency ≠ e.dependent := by
  rw [simple, List.mem_eraseDups, List.mem_filter, bne_iff_ne]

theorem insert_of_not_accepts {edges : EdgeSet} {e : Edge} (h : edges.accepts e = false) :
    edges.insert e = edges := by
  rw [insert, if_neg (by rw [h]; decide)]

theorem insert_of_accepts {edges : EdgeSet} {e : Edge} (h : edges.accepts e = true) :
    edges.insert e = edges ++ [e] := by
  rw [insert, if_pos h]

theorem foldl_insert (es : List Edge) (edges : EdgeSet) :
    es.foldl insert edges = edges ++ simple (es.filter fun e => !edges.contains e) := by
  induction es generalizing edges with
  | nil => simp [simple]
  | cons e es ih =>
    rw [List.foldl_cons, ih]
    cases hloop : e.dependency != e.dependent with
    | false =>
      have hreject : edges.accepts e = false := by rw [accepts, hloop, Bool.false_and]
      rw [insert_of_not_accepts hreject, simple, simple, List.filter_filter, List.filter_filter,
        List.filter_cons_of_neg (by rw [hloop, Bool.false_and]; decide)]
    | true =>
      cases hseen : edges.contains e with
      | true =>
        have hreject : edges.accepts e = false := by
          rw [accepts, hseen, Bool.not_true, Bool.and_false]
        rw [insert_of_not_accepts hreject, List.filter_cons_of_neg (by rw [hseen]; decide)]
      | false =>
        have haccept : edges.accepts e = true := by
          rw [accepts, hloop, hseen, Bool.not_false, Bool.and_self]
        -- what `e` keeps out later is what the duplicates of a head are
        have hnew : es.filter (fun f => !(edges ++ [e]).contains f) =
            (es.filter fun f => !edges.contains f).filter fun f => !f == e := by
          rw [List.filter_filter]
          refine List.filter_congr fun f _ => ?_
          rw [List.contains_append, List.contains_cons, List.contains_nil, Bool.or_false,
            Bool.not_or, Bool.and_comm]
        rw [insert_of_accepts haccept, List.filter_cons_of_pos (by rw [hseen]; decide), hnew,
          simple, simple, List.filter_cons_of_pos (by rw [hloop]), List.eraseDups_cons,
          List.append_assoc, List.singleton_append]
        simp only [List.filter_filter, Bool.and_left_comm]

end EdgeSet

namespace Builder

variable (guess : String → Kind)

theorem foldl_step_edges (nodes : Registry) (ss : List Sql.Statement) :
    (ss.foldl (step guess) ⟨nodes, []⟩).edges = EdgeSet.simple (ss.flatMap edgesOf) := by
  have hall : (ss.flatMap edgesOf).filter (fun e => !([] : EdgeSet).contains e) =
      ss.flatMap edgesOf := List.filter_eq_self.2 fun _ _ => rfl
  rw [foldl_step_eq_advance, advance, EdgeSet.foldl_insert, hall, List.nil_append]

theorem run_edges_eq (ss : List Sql.Statement) :
    (run guess ss).edges = EdgeSet.simple (ss.flatMap edgesOf) := foldl_step_edges guess [] ss

theorem mem_edgesInto (target : String) (rs : List Reference) (e : Edge) :
    e ∈ edgesInto target rs ↔ e.dependent = target ∧ ∃ r ∈ rs, r.base = e.dependency := by
  obtain ⟨dependency, dependent⟩ := e
  simp only [edgesInto, List.mem_map, Edge.mk.injEq]
  constructor
  · rintro ⟨r, hr, hbase, htarget⟩
    exact ⟨htarget.symm, r, hr, hbase⟩
  · rintro ⟨htarget, r, hr, hbase⟩
    exact ⟨r, hr, hbase, htarget.symm⟩

theorem mem_edgesOf (s : Sql.Statement) (e : Edge) :
    e ∈ edgesOf s ↔
      (∃ c ∈ namedCtes s, e.dependent = c.name ∧ ∃ r ∈ cteReads s c, r.base = e.dependency) ∨
      ∃ m, creation? s = some m ∧ e.dependent = m.reference.base ∧
        ∃ r ∈ m.reads, r.base = e.dependency := by
  simp only [edgesOf, List.mem_append, List.mem_flatMap, mem_edgesInto, Option.mem_toList]

/-- The edges of a run are the edges of its statements in order, without loops and each only where
it is found first. Neither the registry nor the guesses have a part in them, and an object is linked
to a table only if its own query reads the table outside its WITH clause, unless the object bears
the name of a common table expression that reads the table. -/
theorem run_edges (ss : List Sql.Statement) :
    (run guess ss).edges =
        ((ss.flatMap edgesOf).filter fun e => e.dependency != e.dependent).eraseDups ∧
      (∀ (guess' : String → Kind) (nodes : Registry),
        (ss.foldl (step guess') ⟨nodes, []⟩).edges = (run guess ss).edges) ∧
      ∀ e ∈ (run guess ss).edges,
        (∃ s ∈ ss, ∃ m, creation? s = some m ∧ e.dependent = m.reference.base ∧
          ∃ r ∈ m.reads, r.base = e.dependency) ∨
        ∃ s ∈ ss, ∃ c ∈ namedCtes s, e.dependent = c.name ∧
          ∃ r ∈ cteReads s c, r.base = e.dependency := by
  refine ⟨run_edges_eq guess ss, ?_, ?_⟩
  · intro guess' nodes
    rw [foldl_step_edges, run_edges_eq]
  · intro e he
    rw [run_edges_eq, EdgeSet.mem_simple] at he
    obtain ⟨s, hs, hse⟩ := List.mem_flatMap.1 he.1
    rcases (mem_edgesOf s e).1 hse with hcte | hcreated
    · exact .inr ⟨s, hs, hcte⟩
    · exact .inl ⟨s, hs, hcreated⟩

end Builder
end SqlLineage
