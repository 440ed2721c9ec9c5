import Mathlib.Data.List.Induction
import SqlLineage.Proofs.RunEdges

/-! Insertions into an edge set, one after the other. What was inserted decides the edges, their
order and each answer. An index that keeps the edges beside a hash set and looks up in that set
gives the same answers and holds the same edges. -/

namespace SqlLineage

namespace EdgeSet

theorem accepts_iff (edges : EdgeSet) (e : Edge) :
    edges.accepts e = true ↔ e.dependency ≠ e.dependent ∧ e ∉ edges := by
  simp [accepts]

def ofInsertions (es : List Edge) : EdgeSet := es.foldl insert []

theorem ofInsertions_concat (es : List Edge) (e : Edge) :
    ofInsertions (es ++ [e]) = (ofInsertions es).insert e := by
  rw [ofInsertions, List.foldl_append]
  rfl

theorem ofInsertions_eq (es : List Edge) : ofInsertions es = simple es := by
  have hall : es.filter (fun e => !([] : EdgeSet).contains e) = es :=
    List.filter_eq_self.2 fun _ _ => rfl
  rw [ofInsertions, foldl_insert, hall, List.nil_append]

theorem mem_ofInsertions (es : List Edge) (e : Edge) :
    e ∈ ofInsertions es ↔ e ∈ es ∧ e.dependency ≠ e.dependent := by
  rw [ofInsertions_eq, mem_simple]

theorem accepts_ofInsertions (es : List Edge) (e : Edge) :
    (ofInsertions es).accepts e = true ↔ e.dependency ≠ e.dependent ∧ e ∉ es := by
  rw [accepts_iff, mem_ofInsertions]
  refine and_congr_right fun hloop => not_congr ?_
  exact and_iff_left hloop

theorem ofInsertions_pairwise (es : List Edge) :
    (ofInsertions es).Pairwise fun e f => es.idxOf e < es.idxOf f := by
  induction es using List.reverseRecOn with
  | nil => exact List.Pairwise.nil
  | append_singleton es e ih =>
    -- the insertion of `e` is behind all others, which keep their numbers
    have hkept : ∀ f ∈ ofInsertions es, (es ++ [e]).idxOf f = es.idxOf f := by
      intro f hf
      rw [List.idxOf_append, if_pos ((mem_ofInsertions es f).1 hf).1]
    have hold : (ofInsertions es).Pairwise fun f g =>
        (es ++ [e]).idxOf f < (es ++ [e]).idxOf g := by
      refine List.Pairwise.imp_of_mem ?_ ih
      intro f g hf hg hlt
      rw [hkept f hf, hkept g hg]
      exact hlt
    rw [ofInsertions_concat]
    cases haccepts : (ofInsertions es).accepts e with
    | false =>
      rw [insert_of_not_accepts haccepts]
      exact hold
    | true =>
      have hnew : e ∉ es := ((accepts_ofInsertions es e).1 haccepts).2
      rw [insert_of_accepts haccepts, List.pairwise_append]
      refine ⟨hold, List.pairwise_singleton _ e, ?_⟩
      intro f hf g hg
      obtain rfl := List.mem_singleton.1 hg
      have hmem : f ∈ es := ((mem_ofInsertions es f).1 hf).1
      have hlast : (es ++ [g]).idxOf g = es.length := by
        rw [List.idxOf_append, if_neg hnew]
        simp
      rw [hkept f hf, hlast]
      exact List.idxOf_lt_length_of_mem hmem

end EdgeSet

instance : Hashable Edge := ⟨fun e => mixHash (hash e.dependency) (hash e.dependent)⟩

/-- Edges in the order of discovery beside a hash set of them. -/
structure EdgeIndex where
  edges : List Edge := []
  seen : Std.HashSet Edge := {}

namespace EdgeIndex

def contains (x : EdgeIndex) (e : Edge) : Bool := x.seen.contains e

def insert (x : EdgeIndex) (e : Edge) : Bool × EdgeIndex :=
  if e.dependency = e.dependent then (false, x)
  else if x.seen.contains e then (false, x)
  else (true, ⟨x.edges ++ [e], x.seen.insert e⟩)

def ofInsertions (es : List Edge) : EdgeIndex := es.foldl (fun x e => (x.insert e).2) {}

theorem ofInsertions_concat (es : List Edge) (e : Edge) :
    ofInsertions (es ++ [e]) = ((ofInsertions es).insert e).2 := by
  rw [ofInsertions, List.foldl_append]
  rfl

/-- The hash set holds the edges of the list, and these are the edges of `edges`. -/
structure Mirrors (x : EdgeIndex) (edges : EdgeSet) : Prop where
  edges_eq : x.edges = edges
  contains_eq : ∀ e, x.contains e = edges.contains e

theorem insert_fst {x : EdgeIndex} {edges : EdgeSet} (h : x.Mirrors edges) (e : Edge) :
    (x.insert e).1 = edges.accepts e := by
  have hseen : x.seen.contains e = edges.contains e := h.contains_eq e
  rw [insert, EdgeSet.accepts]
  by_cases hloop : e.dependency = e.dependent
  · simp [hloop]
  · rw [if_neg hloop, hseen]
    cases edges.contains e <;> simp [hloop]

theorem insert_cases (x : EdgeIndex) (e : Edge) :
    x.insert e = (false, x) ∨ x.insert e = (true, ⟨x.edges ++ [e], x.seen.insert e⟩) := by
  unfold insert
  split
  · exact .inl rfl
  · split
    · exact .inl rfl
    · exact .inr rfl

theorem insert_of_not_new {x : EdgeIndex} {e : Edge} (h : (x.insert e).1 = false) :
    (x.insert e).2 = x := by
  rcases x.insert_cases e with hinsert | hinsert
  · rw [hinsert]
  · rw [hinsert] at h
    cases h

theorem insert_of_new {x : EdgeIndex} {e : Edge} (h : (x.insert e).1 = true) :
    (x.insert e).2 = ⟨x.edges ++ [e], x.seen.insert e⟩ := by
  rcases x.insert_cases e with hinsert | hinsert
  · rw [hinsert] at h
    cases h
  · rw [hinsert]

theorem Mirrors.insert {x : EdgeIndex} {edges : EdgeSet} (h : x.Mirrors edges) (e : Edge) :
    (x.insert e).2.Mirrors (edges.insert e) := by
  cases hnew : (x.insert e).1 with
  | false =>
    have haccepts : edges.accepts e = false := (insert_fst h e).symm.trans hnew
    rw [insert_of_not_new hnew, EdgeSet.insert_of_not_accepts haccepts]
    exact h
  | true =>
    have haccepts : edges.accepts e = true := (insert_fst h e).symm.trans hnew
    rw [insert_of_new hnew, EdgeSet.insert_of_accepts haccepts]
    refine ⟨by rw [h.edges_eq], fun f => ?_⟩
    have hseen : x.seen.contains f = edges.contains f := h.contains_eq f
    rw [contains, Std.HashSet.contains_insert, hseen, List.contains_append, Bool.or_comm,
      List.contains_cons, List.contains_nil, Bool.or_false, BEq.comm]

theorem mirrors_ofInsertions (es : List Edge) :
    (ofInsertions es).Mirrors (EdgeSet.ofInsertions es) := by
  induction es using List.reverseRecOn with
  | nil => exact ⟨rfl, fun e => Std.HashSet.contains_empty⟩
  | append_singleton es e ih =>
    rw [ofInsertions_concat, EdgeSet.ofInsertions_concat]
    exact ih.insert e

end EdgeIndex

/-- After any insertions the set holds just the inserted edges that are no loops, each once and in
the order of their first insertion. Looking an edge up tells whether it is held. The next insertion
answers that the edge is new just if it is no loop and was not inserted before, and changes nothing
otherwise. All of this holds alike of an index whose look-ups go to a hash set. -/
theorem EdgeSet.ofInsertions_exact (es : List Edge) :
    (∀ e, e ∈ ofInsertions es ↔ e ∈ es ∧ e.dependency ≠ e.dependent) ∧
      (ofInsertions es).Pairwise (fun e f => es.idxOf e < es.idxOf f) ∧
      (∀ e, (ofInsertions es).contains e = true ↔ e ∈ ofInsertions es) ∧
      (∀ e, ((ofInsertions es).accepts e = true ↔ e.dependency ≠ e.dependent ∧ e ∉ es) ∧
        ((ofInsertions es).accepts e = false → (ofInsertions es).insert e = ofInsertions es)) ∧
      (EdgeIndex.ofInsertions es).edges = ofInsertions es ∧
      ∀ e, ((EdgeIndex.ofInsertions es).contains e = true ↔
          e ∈ (EdgeIndex.ofInsertions es).edges) ∧
        (((EdgeIndex.ofInsertions es).insert e).1 = true ↔
          e.dependency ≠ e.dependent ∧ e ∉ es) ∧
        (((EdgeIndex.ofInsertions es).insert e).1 = false →
          ((EdgeIndex.ofInsertions es).insert e).2 = EdgeIndex.ofInsertions es) := by
  have hmirrors := EdgeIndex.mirrors_ofInsertions es
  refine ⟨mem_ofInsertions es, ofInsertions_pairwise es, fun e => List.contains_iff_mem, ?_,
    hmirrors.edges_eq, ?_⟩
  · intro e
    exact ⟨accepts_ofInsertions es e, insert_of_not_accepts⟩
  · intro e
    refine ⟨?_, ?_, EdgeIndex.insert_of_not_new⟩
    · rw [hmirrors.contains_eq, hmirrors.edges_eq]
      exact List.contains_iff_mem
    · rw [EdgeIndex.insert_fst hmirrors]
      exact accepts_ofInsertions es e

-- a loop, a repetition, and an edge against the direction of another
example : EdgeSet.ofInsertions [⟨"b", "a"⟩, ⟨"a", "a"⟩, ⟨"a", "b"⟩, ⟨"b", "a"⟩] =
    [⟨"b", "a"⟩, ⟨"a", "b"⟩] := by
  decide +kernel

end SqlLineage
