import SqlLineage.Proofs.Focus

/-! Narrowing a graph in two steps. All that a path to or from one of the names passes through is
itself around that name, so the part of the graph around the names has every such path, and nothing
is lost by looking for fewer names in that part only. -/

namespace SqlLineage.Graph

variable {g : Graph} {names more keep : List String}

theorem leads_restrict (a b : String) :
    Leads (g.restrict keep).edges a b ↔ Leads g.edges a b ∧ a ∈ keep ∧ b ∈ keep := by
  simp only [Leads, restrict, List.mem_filter, Bool.and_eq_true, List.contains_iff_mem]

theorem reaches_of_restrict {a b : String} (h : Reaches (g.restrict keep).edges a b) :
    Reaches g.edges a b :=
  Relation.ReflTransGen.mono (fun x y hedge => ((leads_restrict x y).1 hedge).1) a b h

theorem reaches_restrict {a b : String}
    (hkeep : ∀ x, Reaches g.edges a x → Reaches g.edges x b → x ∈ keep)
    (hpath : Reaches g.edges a b) : Reaches (g.restrict keep).edges a b := by
  -- from the start of the path, so that the rest of it asks for no more names than the whole
  induction hpath using Relation.ReflTransGen.head_induction_on with
  | refl => exact .refl
  | @head a c hedge hrest ih =>
    have ha : a ∈ keep := hkeep a .refl (.head hedge hrest)
    have hc : c ∈ keep := hkeep c (.single hedge) hrest
    exact .head ((leads_restrict a c).2 ⟨hedge, ha, hc⟩)
      (ih fun x hcx hxb => hkeep x (.head hedge hcx) hxb)

theorem has_of_restrict {name : String} (h : (g.restrict keep).Has name) : g.Has name := by
  rcases h with hnode | ⟨e, he, hend⟩
  · obtain ⟨entry, hentry, rfl⟩ := List.mem_map.1 hnode
    exact .inl (List.mem_map_of_mem (List.mem_of_mem_filter hentry))
  · exact .inr ⟨e, List.mem_of_mem_filter he, hend⟩

theorem has_restrict {name : String} (hname : name ∈ keep)
    (hafter : ∀ x, Leads g.edges name x → x ∈ keep)
    (hbefore : ∀ x, Leads g.edges x name → x ∈ keep) (h : g.Has name) :
    (g.restrict keep).Has name := by
  rcases h with hnode | ⟨⟨a, b⟩, he, rfl | rfl⟩
  · obtain ⟨entry, hentry, rfl⟩ := List.mem_map.1 hnode
    exact .inl (List.mem_map_of_mem (List.mem_filter.2 ⟨hentry, List.contains_iff_mem.2 hname⟩))
  · exact .inr ⟨⟨_, b⟩, (leads_restrict _ b).2 ⟨he, hname, hafter b he⟩, .inl rfl⟩
  · exact .inr ⟨⟨a, _⟩, (leads_restrict a _).2 ⟨he, hbefore a he, hname⟩, .inr rfl⟩

theorem restrict_restrict {keep' both : List String}
    (h : ∀ x, x ∈ both ↔ x ∈ keep ∧ x ∈ keep') :
    (g.restrict keep).restrict keep' = g.restrict both := by
  have hboth : ∀ x, both.contains x = (keep'.contains x && keep.contains x) := by
    intro x
    rw [Bool.eq_iff_iff, Bool.and_eq_true, List.contains_iff_mem, List.contains_iff_mem,
      List.contains_iff_mem, h x, and_comm]
  have hnodes : (g.nodes.filter fun entry => keep.contains entry.1).filter
      (fun entry => keep'.contains entry.1) =
        g.nodes.filter fun entry => both.contains entry.1 := by
    simp only [List.filter_filter, hboth]
  have hedges : ((g.restrict keep).restrict keep').edges = (g.restrict both).edges := by
    simp only [restrict, List.filter_filter, hboth]
    refine List.filter_congr fun e _ => ?_
    ac_rfl
  simp only [restrict] at hedges
  simp only [restrict, hnodes, hedges]

theorem Around.mono (hsub : ∀ name ∈ more, name ∈ names) {x : String} (h : g.Around more x) :
    g.Around names x := by
  obtain ⟨name, hname, hrest⟩ := h
  exact ⟨name, hsub name hname, hrest⟩

section Part

variable (hkeep : ∀ x, x ∈ keep ↔ g.Around names x)
include hkeep

theorem mem_keep_of_reaches {name x : String} (hname : name ∈ names) (hhas : g.Has name)
    (hpath : Reaches g.edges name x ∨ Reaches g.edges x name) : x ∈ keep :=
  (hkeep x).2 ⟨name, hname, hhas, hpath⟩

theorem has_part_iff {name : String} (hname : name ∈ names) :
    (g.restrict keep).Has name ↔ g.Has name := by
  refine ⟨has_of_restrict, fun hhas => ?_⟩
  have hmem : ∀ {x}, Reaches g.edges name x ∨ Reaches g.edges x name → x ∈ keep :=
    mem_keep_of_reaches hkeep hname hhas
  exact has_restrict (hmem (.inl .refl)) (fun x hedge => hmem (.inl (.single hedge)))
    (fun x hedge => hmem (.inr (.single hedge))) hhas

theorem around_part_iff (hsub : ∀ name ∈ more, name ∈ names) (x : String) :
    (g.restrict keep).Around more x ↔ g.Around more x := by
  constructor
  · rintro ⟨name, hname, hhas, hpath⟩
    exact ⟨name, hname, has_of_restrict hhas, hpath.imp reaches_of_restrict reaches_of_restrict⟩
  · rintro ⟨name, hname, hhas, hpath⟩
    have hmem : ∀ {x}, Reaches g.edges name x ∨ Reaches g.edges x name → x ∈ keep :=
      mem_keep_of_reaches hkeep (hsub name hname) hhas
    refine ⟨name, hname, (has_part_iff hkeep (hsub name hname)).2 hhas, hpath.imp ?_ ?_⟩
    · exact reaches_restrict fun y hy _ => hmem (.inl hy)
    · exact reaches_restrict fun y _ hy => hmem (.inr hy)

theorem focus_part (hsub : ∀ name ∈ more, name ∈ names) :
    (g.restrict keep).focus more = g.focus more := by
  by_cases h : ∃ name ∈ more, g.Has name
  · obtain ⟨name, hname, hhas⟩ := h
    have hpart := (has_part_iff hkeep (hsub name hname)).2 hhas
    rw [focus_of_has _ ⟨name, hname, hhas⟩, focus_of_has _ ⟨name, hname, hpart⟩]
    congr 1
    refine restrict_restrict fun x => ?_
    rw [mem_kept, mem_kept, around_part_iff hkeep hsub, hkeep x]
    exact ⟨fun hx => ⟨hx.mono hsub, hx⟩, And.right⟩
  · have hnone : ∀ name ∈ more, ¬ g.Has name := fun name hname hhas => h ⟨name, hname, hhas⟩
    rw [(focus_eq_none_iff _ _).2 hnone, focus_eq_none_iff]
    exact fun name hname hhas => hnone name hname (has_of_restrict hhas)

end Part

/-- Focusing on fewer names in a graph that was focused before gives what focusing the whole graph
on them gives, none included; so focusing twice on the same names changes nothing. -/
theorem focus_focus {g' : Graph} (h : g.focus names = some g')
    (hsub : ∀ name ∈ more, name ∈ names) :
    g'.focus more = g.focus more ∧ g'.focus names = some g' := by
  have hhas : ∃ name ∈ names, g.Has name := by
    by_contra hnot
    have hnone : ∀ name ∈ names, ¬ g.Has name := fun name hname hhas => hnot ⟨name, hname, hhas⟩
    rw [(focus_eq_none_iff _ _).2 hnone] at h
    cases h
  have hg' := h
  rw [focus_of_has _ hhas, Option.some.injEq] at hg'
  subst hg'
  have hkeep := g.mem_kept names
  refine ⟨focus_part hkeep hsub, ?_⟩
  rw [focus_part hkeep fun _ hname => hname]
  exact h

def circleAndLoop : Graph :=
  { edges := [⟨"a", "b"⟩, ⟨"b", "c"⟩, ⟨"c", "b"⟩, ⟨"a", "d"⟩, ⟨"x", "x"⟩, ⟨"z", "x"⟩, ⟨"z", "d"⟩]
    nodes := [("c", ⟨.view, some "s", "s.c", none, false⟩),
      ("d", ⟨.table, none, "d", none, true⟩)] }

/-- What is left around four names, two of them unknown, and then around one of these and one that
the graph has. -/
theorem focus_focus_circleAndLoop :
    circleAndLoop.focus ["b", "x", "y", "q"] =
      some { edges := [⟨"a", "b"⟩, ⟨"b", "c"⟩, ⟨"c", "b"⟩, ⟨"x", "x"⟩, ⟨"z", "x"⟩]
             nodes := [("c", ⟨.view, some "s", "s.c", none, false⟩)]
             stats := [("s", 1)] } ∧
    (∀ name ∈ ["x", "q"], name ∈ ["b", "x", "y", "q"]) ∧
    circleAndLoop.focus ["x", "q"] = some { edges := [⟨"x", "x"⟩, ⟨"z", "x"⟩] } ∧
    focus { edges := [⟨"a", "b"⟩, ⟨"b", "c"⟩, ⟨"c", "b"⟩, ⟨"x", "x"⟩, ⟨"z", "x"⟩]
            nodes := [("c", ⟨.view, some "s", "s.c", none, false⟩)]
            stats := [("s", 1)] } ["x", "q"] =
      some { edges := [⟨"x", "x"⟩, ⟨"z", "x"⟩] } := by
  have h : circleAndLoop.focus ["b", "x", "y", "q"] =
      some { edges := [⟨"a", "b"⟩, ⟨"b", "c"⟩, ⟨"c", "b"⟩, ⟨"x", "x"⟩, ⟨"z", "x"⟩]
             nodes := [("c", ⟨.view, some "s", "s.c", none, false⟩)]
             stats := [("s", 1)] } := by decide +kernel
  have hsub : ∀ name ∈ ["x", "q"], name ∈ ["b", "x", "y", "q"] := by decide
  have hfewer : circleAndLoop.focus ["x", "q"] = some { edges := [⟨"x", "x"⟩, ⟨"z", "x"⟩] } := by
    decide +kernel
  exact ⟨h, hsub, hfewer, (focus_focus h hsub).1.trans hfewer⟩

end SqlLineage.Graph
