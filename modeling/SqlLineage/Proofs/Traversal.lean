import Mathlib.Logic.Relation
import SqlLineage.Graph.Traversal

/-! A traversal visits what the edges reach from its start, and each number once. A visit takes the
first number off the queue and puts behind the others what it leads to, as far as that is new. So a
number that is discovered is in the queue until all that it leads to is discovered as well, and it
never comes back to the queue. -/

namespace SqlLineage

namespace Numbered

/-- A path of any length, none included, leads along the edges from one number to the other. -/
def Reaches (n : Numbered) : Nat → Nat → Prop :=
  Relation.ReflTransGen fun i j => (i, j) ∈ n.edges

theorem mem_successors (n : Numbered) (i j : Nat) : j ∈ n.successors i ↔ (i, j) ∈ n.edges := by
  simp only [successors, List.mem_map, List.mem_filter, beq_iff_eq]
  constructor
  · rintro ⟨e, ⟨he, rfl⟩, rfl⟩
    exact he
  · exact fun he => ⟨(i, j), ⟨he, rfl⟩, rfl⟩

theorem reaches_reversed (n : Numbered) (i j : Nat) : n.reversed.Reaches i j ↔ n.Reaches j i := by
  have hswap : (fun i j => (i, j) ∈ n.reversed.edges) =
      Function.swap fun i j => (i, j) ∈ n.edges := by
    funext i j
    rw [reversed, List.mem_map]
    refine propext ⟨?_, fun he => ⟨(j, i), he, rfl⟩⟩
    rintro ⟨e, he, heq⟩
    obtain ⟨rfl, rfl⟩ := Prod.mk.inj heq
    exact he
  rw [Reaches, hswap, Relation.reflTransGen_swap, Reaches]

end Numbered

namespace Traversal

variable {n : Numbered} {s s' : Traversal} {i : Nat}

theorem exists_foldl_discover_eq (found : List Nat) (s : Traversal) :
    ∃ new, found.foldl discover s = ⟨s.queue ++ new, s.discovered ++ new⟩ ∧ new.Nodup ∧
      (∀ j ∈ new, j ∉ s.discovered) ∧
      ∀ j, j ∈ s.discovered ++ new ↔ j ∈ s.discovered ∨ j ∈ found := by
  induction found generalizing s with
  | nil => exact ⟨[], by simp⟩
  | cons i found ih =>
    by_cases hi : i ∈ s.discovered
    · obtain ⟨new, hfold, hnodup, hnew, hmem⟩ := ih s
      refine ⟨new, by rw [List.foldl_cons, discover_of_mem hi, hfold], hnodup, hnew, fun j => ?_⟩
      rw [hmem, List.mem_cons]
      constructor
      · exact Or.imp_right .inr
      · rintro (hj | rfl | hj)
        · exact .inl hj
        · exact .inl hi
        · exact .inr hj
    · obtain ⟨new, hfold, hnodup, hnew, hmem⟩ := ih ⟨s.queue ++ [i], s.discovered ++ [i]⟩
      simp only [List.mem_append, List.mem_singleton] at hnew hmem
      refine ⟨i :: new, ?_, List.nodup_cons.2 ⟨fun hin => hnew i hin (.inr rfl), hnodup⟩, ?_, ?_⟩
      · rw [List.foldl_cons, discover_of_not_mem hi, hfold, List.append_assoc, List.append_assoc,
          List.singleton_append]
      · intro j hj hdiscovered
        rcases List.mem_cons.1 hj with rfl | hj
        · exact hi hdiscovered
        · exact hnew j hj (.inl hdiscovered)
      · intro j
        rw [List.mem_append, List.mem_cons, List.mem_cons, ← or_assoc, ← or_assoc, hmem]

theorem next?_eq_none (h : s.next? n = none) : s.queue = [] := by
  cases hqueue : s.queue with
  | nil => rfl
  | cons i queue => simp [next?, hqueue] at h

theorem next?_eq_some (h : s.next? n = some (i, s')) :
    ∃ queue new, s.queue = i :: queue ∧ s' = ⟨queue ++ new, s.discovered ++ new⟩ ∧ new.Nodup ∧
      (∀ j ∈ new, j ∉ s.discovered) ∧
      ∀ j, j ∈ s.discovered ++ new ↔ j ∈ s.discovered ∨ (i, j) ∈ n.edges := by
  cases hqueue : s.queue with
  | nil => simp [next?, hqueue] at h
  | cons j queue =>
    simp only [next?, hqueue, Option.some.injEq, Prod.mk.injEq] at h
    obtain ⟨rfl, rfl⟩ := h
    obtain ⟨new, hfold, hnodup, hnew, hmem⟩ :=
      exists_foldl_discover_eq (n.successors j) { s with queue := queue }
    simp only [n.mem_successors] at hmem
    exact ⟨queue, new, rfl, hfold, hnodup, hnew, hmem⟩

structure Inv (n : Numbered) (s : Traversal) : Prop where
  queued : ∀ i ∈ s.queue, i ∈ s.discovered
  nodup : s.queue.Nodup
  settled : ∀ i ∈ s.discovered, i ∈ s.queue ∨ ∀ j, (i, j) ∈ n.edges → j ∈ s.discovered

theorem inv_start (n : Numbered) (i : Nat) : (start i).Inv n where
  queued _ hj := hj
  nodup := List.pairwise_singleton _ i
  settled _ hj := .inl hj

theorem Inv.next (h : s.Inv n) (hnext : s.next? n = some (i, s')) : s'.Inv n := by
  obtain ⟨queue, new, hqueue, rfl, hnodup, hnew, hmem⟩ := next?_eq_some hnext
  have hrest : ∀ j ∈ queue, j ∈ s.queue := fun j hj => hqueue ▸ List.mem_cons_of_mem i hj
  refine ⟨?_, ?_, ?_⟩
  · intro j hj
    rcases List.mem_append.1 hj with hj | hj
    · exact List.mem_append_left new (h.queued j (hrest j hj))
    · exact List.mem_append_right s.discovered hj
  · have hold : queue.Nodup := (List.nodup_cons.1 (hqueue ▸ h.nodup)).2
    refine List.nodup_append.2 ⟨hold, hnodup, fun j hj k hk hjk => ?_⟩
    exact hnew k hk (hjk ▸ h.queued j (hrest j hj))
  · intro j hj
    rcases List.mem_append.1 hj with hold | hj
    · rcases h.settled j hold with hj | hsettled
      · rw [hqueue, List.mem_cons] at hj
        rcases hj with rfl | hj
        · exact .inr fun k hk => (hmem k).2 (.inr hk)
        · exact .inl (List.mem_append_left new hj)
      · exact .inr fun k hk => List.mem_append_left new (hsettled k hk)
    · exact .inl (List.mem_append_right queue hj)

theorem mem_run_of_mem_queue {j : Nat} (hj : j ∈ s.queue) : j ∈ s.run n := by
  fun_induction run n s with
  | case1 s hnone =>
    rw [next?_eq_none hnone] at hj
    cases hj
  | case2 s i s' hnext ih =>
    obtain ⟨queue, new, hqueue, rfl, -⟩ := next?_eq_some hnext
    rw [hqueue, List.mem_cons] at hj
    rcases hj with rfl | hj
    · exact List.mem_cons_self
    · exact List.mem_cons_of_mem i (ih (List.mem_append_left new hj))

theorem reaches_of_mem_run {j : Nat} (hj : j ∈ s.run n) : ∃ i ∈ s.queue, n.Reaches i j := by
  fun_induction run n s with
  | case1 s hnone => cases hj
  | case2 s i s' hnext ih =>
    obtain ⟨queue, new, hqueue, rfl, -, hnew, hmem⟩ := next?_eq_some hnext
    rw [hqueue]
    rcases List.mem_cons.1 hj with rfl | hj
    · exact ⟨j, List.mem_cons_self, .refl⟩
    · obtain ⟨k, hk, hpath⟩ := ih hj
      rcases List.mem_append.1 hk with hk | hk
      · exact ⟨k, List.mem_cons_of_mem i hk, hpath⟩
      · have hedge := ((hmem k).1 (List.mem_append_right _ hk)).resolve_left (hnew k hk)
        exact ⟨i, List.mem_cons_self, .head hedge hpath⟩

/-- The edges do not lead out of what is discovered or still to be visited. -/
theorem Inv.run_closed (h : s.Inv n) {j k : Nat} (hj : j ∈ s.run n ∨ j ∈ s.discovered)
    (hedge : (j, k) ∈ n.edges) : k ∈ s.run n ∨ k ∈ s.discovered := by
  fun_induction run n s with
  | case1 s hnone =>
    have hdiscovered := hj.resolve_left List.not_mem_nil
    rcases h.settled j hdiscovered with hqueue | hsettled
    · rw [next?_eq_none hnone] at hqueue
      cases hqueue
    · exact .inr (hsettled k hedge)
  | case2 s i s' hnext ih =>
    have hs' := h.next hnext
    obtain ⟨queue, new, hqueue, rfl, -⟩ := next?_eq_some hnext
    have hi : i ∈ s.discovered := h.queued i (hqueue ▸ List.mem_cons_self)
    have hj' : j ∈ run n ⟨queue ++ new, s.discovered ++ new⟩ ∨ j ∈ s.discovered ++ new := by
      rcases hj with hj | hj
      · rcases List.mem_cons.1 hj with rfl | hj
        · exact .inr (List.mem_append_left new hi)
        · exact .inl hj
      · exact .inr (List.mem_append_left new hj)
    -- what is new is in the queue, and all of the queue is visited
    rcases ih hs' hj' with hk | hk
    · exact .inl (List.mem_cons_of_mem i hk)
    · rcases List.mem_append.1 hk with hk | hk
      · exact .inr hk
      · exact .inl (List.mem_cons_of_mem i
          (mem_run_of_mem_queue (List.mem_append_right queue hk)))

theorem Inv.run_nodup (h : s.Inv n) :
    (s.run n).Nodup ∧ ∀ j ∈ s.run n, j ∈ s.discovered → j ∈ s.queue := by
  fun_induction run n s with
  | case1 s hnone => exact ⟨List.nodup_nil, fun _ hj => absurd hj List.not_mem_nil⟩
  | case2 s i s' hnext ih =>
    obtain ⟨hnodup, hvisited⟩ := ih (h.next hnext)
    obtain ⟨queue, new, hqueue, rfl, -, hnew, -⟩ := next?_eq_some hnext
    have hi : i ∈ s.discovered := h.queued i (hqueue ▸ List.mem_cons_self)
    -- among the numbers discovered before, those visited later were in the queue before
    have hold : ∀ j ∈ run n ⟨queue ++ new, s.discovered ++ new⟩, j ∈ s.discovered → j ∈ queue := by
      intro j hj hdiscovered
      have hlater := hvisited j hj (List.mem_append_left new hdiscovered)
      exact (List.mem_append.1 hlater).resolve_right fun hj => hnew j hj hdiscovered
    refine ⟨List.nodup_cons.2 ⟨fun hmem => ?_, hnodup⟩, fun j hj hdiscovered => ?_⟩
    · exact (List.nodup_cons.1 (hqueue ▸ h.nodup)).1 (hold i hmem hi)
    · rw [hqueue]
      rcases List.mem_cons.1 hj with rfl | hj
      · exact List.mem_cons_self
      · exact List.mem_cons_of_mem i (hold j hj hdiscovered)

end Traversal

namespace Numbered

theorem mem_visited (n : Numbered) (i j : Nat) : j ∈ n.visited i ↔ n.Reaches i j := by
  have hstart : i ∈ n.visited i := Traversal.mem_run_of_mem_queue (List.mem_singleton_self i)
  constructor
  · intro hj
    obtain ⟨k, hk, hpath⟩ := Traversal.reaches_of_mem_run hj
    obtain rfl := List.mem_singleton.1 hk
    exact hpath
  · intro hpath
    induction hpath with
    | refl => exact hstart
    | tail _ hedge ih =>
      rcases (Traversal.inv_start n i).run_closed (.inl ih) hedge with hmem | hmem
      · exact hmem
      · obtain rfl := List.mem_singleton.1 hmem
        exact hstart

theorem visited_nodup (n : Numbered) (i : Nat) : (n.visited i).Nodup :=
  (Traversal.inv_start n i).run_nodup.1

end Numbered
end SqlLineage
