import SqlLineage.Graph.Numbered

/-! Breadth-first traversals of a numbered graph. -/

namespace SqlLineage

/-- The numbers where an edge from `i` ends. -/
def Numbered.successors (n : Numbered) (i : Nat) : List Nat :=
  (n.edges.filter fun e => e.1 == i).map Prod.snd

/-- How far a breadth-first search has come. -/
structure Traversal where
  /-- Found and not yet visited, the next one first. -/
  queue : List Nat
  /-- Found at all. -/
  discovered : List Nat
  deriving DecidableEq, Repr

namespace Traversal

def start (i : Nat) : Traversal := ⟨[i], [i]⟩

def discover (s : Traversal) (i : Nat) : Traversal :=
  if s.discovered.contains i then s else ⟨s.queue ++ [i], s.discovered ++ [i]⟩

/-- The number that is visited next, and the traversal after the visit. -/
def next? (n : Numbered) (s : Traversal) : Option (Nat × Traversal) :=
  match s.queue with
  | [] => none
  | i :: queue => some (i, (n.successors i).foldl discover { s with queue := queue })

/-- The edges whose ends are still to be found, with the visits still to be made. -/
def remaining (n : Numbered) (s : Traversal) : Nat :=
  (n.edges.filter fun e => !s.discovered.contains e.2).length + s.queue.length

theorem discover_of_mem {s : Traversal} {i : Nat} (h : i ∈ s.discovered) : s.discover i = s := by
  rw [discover, if_pos (List.contains_iff_mem.2 h)]

theorem discover_of_not_mem {s : Traversal} {i : Nat} (h : i ∉ s.discovered) :
    s.discover i = ⟨s.queue ++ [i], s.discovered ++ [i]⟩ := by
  rw [discover, if_neg (by simpa using h)]

/-- What a discovery adds to the queue it takes from the edges. -/
theorem remaining_discover_le {n : Numbered} (s : Traversal) {e : Nat × Nat} (he : e ∈ n.edges) :
    (s.discover e.2).remaining n ≤ s.remaining n := by
  by_cases hmem : e.2 ∈ s.discovered
  · exact Nat.le_of_eq (by rw [discover_of_mem hmem])
  rw [discover_of_not_mem hmem]
  have hfilter : (n.edges.filter fun e' => !(s.discovered ++ [e.2]).contains e'.2) =
      (n.edges.filter fun e' => !s.discovered.contains e'.2).filter
        fun e' => !([e.2].contains e'.2) := by
    rw [List.filter_filter]
    refine List.filter_congr fun e' _ => ?_
    rw [List.contains_append, Bool.not_or, Bool.and_comm]
  have hlt : (n.edges.filter fun e' => !(s.discovered ++ [e.2]).contains e'.2).length <
      (n.edges.filter fun e' => !s.discovered.contains e'.2).length := by
    rw [hfilter, List.length_filter_lt_length_iff_exists]
    exact ⟨e, List.mem_filter.2 ⟨he, by simpa using hmem⟩, by simp⟩
  simp only [remaining, List.length_append, List.length_singleton]
  omega

theorem remaining_foldl_discover_le {n : Numbered} {edges : List (Nat × Nat)}
    (h : ∀ e ∈ edges, e ∈ n.edges) (s : Traversal) :
    ((edges.map Prod.snd).foldl discover s).remaining n ≤ s.remaining n := by
  induction edges generalizing s with
  | nil => exact Nat.le_refl _
  | cons e edges ih =>
    have hrest := ih (fun e' he' => h e' (List.mem_cons_of_mem e he')) (s.discover e.2)
    exact Nat.le_trans hrest (remaining_discover_le s (h e List.mem_cons_self))

theorem remaining_next?_lt {n : Numbered} {s s' : Traversal} {i : Nat}
    (h : s.next? n = some (i, s')) : s'.remaining n < s.remaining n := by
  cases hqueue : s.queue with
  | nil => simp [next?, hqueue] at h
  | cons j queue =>
    simp only [next?, hqueue, Option.some.injEq, Prod.mk.injEq] at h
    obtain ⟨rfl, rfl⟩ := h
    refine Nat.lt_of_le_of_lt (remaining_foldl_discover_le (fun e he => ?_) _) ?_
    · exact (List.mem_filter.1 he).1
    · simp only [remaining, hqueue, List.length_cons]
      omega

/-- All that is visited from here on, in order. -/
def run (n : Numbered) (s : Traversal) : List Nat :=
  match _hnext : s.next? n with
  | none => []
  | some (i, s') => i :: run n s'
termination_by s.remaining n
decreasing_by exact remaining_next?_lt _hnext

end Traversal

/-- What the edges reach from `i`, itself included. -/
def Numbered.visited (n : Numbered) (i : Nat) : List Nat := (Traversal.start i).run n

end SqlLineage
