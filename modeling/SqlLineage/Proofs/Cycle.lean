import Mathlib.Data.List.Chain
import Mathlib.Data.List.Sort
import SqlLineage.Proofs.Component
import SqlLineage.Proofs.Reachability

/-! The circular dependencies of a graph are exact. The lists are the names of the components of two
numbers or more, so they are the classes of names that all reach each other; they depend on which
edges there are, and neither on anything else about them nor on how the components are found. -/

namespace SqlLineage

section Ascending

variable {α : Type} [LT α] [DecidableLT α]

theorem mem_ascending (items : List α) (x : α) : x ∈ ascending items ↔ x ∈ items :=
  (List.mergeSort_perm items _).mem_iff

theorem length_ascending (items : List α) : (ascending items).length = items.length :=
  (List.mergeSort_perm items _).length_eq

variable [Std.Asymm (α := α) (· < ·)] [Std.Trichotomous (α := α) (· < ·)]
  [IsTrans α (· < ·)]

theorem ascending_pairwise {items : List α} (h : items.Nodup) :
    (ascending items).Pairwise (· < ·) := by
  have hle : (ascending items).Pairwise fun a b => (!decide (b < a)) = true := by
    refine List.pairwise_mergeSort ?_ ?_ items
    · intro a b c hab hbc
      simp only [Bool.not_eq_true', decide_eq_false_iff_not] at hab hbc ⊢
      intro hca
      rcases trichotomous_of (· < ·) a b with hlt | rfl | hlt
      · exact hbc (trans_of (· < ·) hca hlt)
      · exact hbc hca
      · exact hab hlt
    · intro a b
      simp only [Bool.or_eq_true, Bool.not_eq_true', decide_eq_false_iff_not]
      exact not_and_or.1 fun hboth => asymm hboth.1 hboth.2
  have hnodup : (ascending items).Nodup := (List.mergeSort_perm items _).nodup_iff.2 h
  refine hle.imp₂ ?_ hnodup
  intro a b hab hne
  simp only [Bool.not_eq_true', decide_eq_false_iff_not] at hab
  exact (trichotomous_of (· < ·) a b).resolve_right (not_or.2 ⟨hne, hab⟩)

end Ascending

theorem one_lt_length_of_mem {names : List String} {a b : String} (ha : a ∈ names)
    (hb : b ∈ names) (hne : a ≠ b) : 1 < names.length := by
  match names, ha, hb with
  | [_], ha, hb => exact absurd ((List.mem_singleton.1 ha).trans (List.mem_singleton.1 hb).symm) hne
  | _ :: _ :: rest, _, _ => exact Nat.lt_of_lt_of_le Nat.one_lt_two (Nat.le_add_left 2 rest.length)

theorem exists_mem_ne {names : List String} (hnodup : names.Nodup) (hlength : 2 ≤ names.length)
    (a : String) : ∃ b ∈ names, b ≠ a := by
  match names, hnodup, hlength with
  | first :: second :: rest, hnodup, _ =>
    by_cases ha : first = a
    · have hne : first ≠ second := fun heq =>
        (List.nodup_cons.1 hnodup).1 (heq ▸ List.mem_cons_self)
      exact ⟨second, List.mem_cons_of_mem first List.mem_cons_self,
        fun heq => hne (ha.trans heq.symm)⟩
    · exact ⟨first, List.mem_cons_self, ha⟩

/-! Paths as lists of the names that they pass. -/

theorem reaches_of_isChain {edges : List Edge} {a b : String} {walk : List String}
    (h : (a :: walk).IsChain (Leads edges)) (hb : b ∈ walk) : Reaches edges a b := by
  induction walk generalizing a with
  | nil => cases hb
  | cons c walk ih =>
    obtain ⟨hedge, hrest⟩ := List.isChain_cons_cons.1 h
    rcases List.mem_cons.1 hb with rfl | hb
    · exact .single hedge
    · exact .head hedge (ih hrest hb)

theorem exists_isChain_of_transGen {edges : List Edge} {a b : String}
    (h : Relation.TransGen (Leads edges) a b) :
    ∃ walk, ∀ rest, (b :: rest).IsChain (Leads edges) →
      (a :: (walk ++ b :: rest)).IsChain (Leads edges) := by
  induction h using Relation.TransGen.head_induction_on with
  | single hedge => exact ⟨[], fun rest hrest => .cons_cons hedge hrest⟩
  | @head a c hedge _ ih =>
    obtain ⟨walk, hwalk⟩ := ih
    exact ⟨c :: walk, fun rest hrest => .cons_cons hedge (hwalk rest hrest)⟩

theorem transGen_of_reaches {edges : List Edge} {a b : String} (h : Reaches edges a b)
    (hne : a ≠ b) : Relation.TransGen (Leads edges) a b :=
  (Relation.reflTransGen_iff_eq_or_transGen.1 h).resolve_left (Ne.symm hne)

namespace Graph

variable (g : Graph)

def Mutual (a b : String) : Prop := Reaches g.edges a b ∧ Reaches g.edges b a

/-- The walk from `first` through the names of `rest` and back to `first` goes along edges. -/
def IsCircuit (first : String) (rest : List String) : Prop :=
  (first :: (rest ++ [first])).IsChain (Leads g.edges)

variable {g}

theorem Mutual.refl (a : String) : g.Mutual a a := ⟨.refl, .refl⟩

theorem Mutual.symm {a b : String} (h : g.Mutual a b) : g.Mutual b a := ⟨h.2, h.1⟩

theorem Mutual.trans {a b c : String} (h : g.Mutual a b) (h' : g.Mutual b c) : g.Mutual a c :=
  ⟨Relation.ReflTransGen.trans h.1 h'.1, Relation.ReflTransGen.trans h'.2 h.2⟩

theorem Mutual.has {a b : String} (h : g.Mutual a b) (hne : a ≠ b) : g.Has a := by
  obtain ⟨c, hedge, _⟩ := Relation.TransGen.head'_iff.1 (transGen_of_reaches h.1 hne)
  exact .inr ⟨⟨a, c⟩, hedge, .inl rfl⟩

theorem IsCircuit.mutual {first : String} {rest : List String} (h : g.IsCircuit first rest)
    {name : String} (hname : name ∈ rest) : g.Mutual first name := by
  refine ⟨reaches_of_isChain h (List.mem_append_left _ hname), ?_⟩
  obtain ⟨before, after, rfl⟩ := List.append_of_mem hname
  rw [IsCircuit, List.append_assoc, List.cons_append, ← List.cons_append] at h
  exact reaches_of_isChain h.right_of_append
    (List.mem_append_right after (List.mem_singleton_self _))

theorem Mutual.exists_isCircuit {a b : String} (h : g.Mutual a b) (hne : a ≠ b) :
    ∃ rest, g.IsCircuit a rest ∧ b ∈ rest := by
  obtain ⟨there, hthere⟩ := exists_isChain_of_transGen (transGen_of_reaches h.1 hne)
  obtain ⟨back, hback⟩ := exists_isChain_of_transGen (transGen_of_reaches h.2 (Ne.symm hne))
  refine ⟨there ++ b :: back, ?_, List.mem_append_right _ List.mem_cons_self⟩
  rw [IsCircuit, List.append_assoc, List.cons_append]
  exact hthere _ (hback [] (.singleton a))

/-! ### From numbers to names -/

theorem mutual_numbered_iff {a b : String} {i j : Nat} (ha : g.numbered.indexOf? a = some i)
    (hb : g.numbered.indexOf? b = some j) : g.numbered.Mutual i j ↔ g.Mutual a b :=
  and_congr (reaches_numbered_iff ha hb) (reaches_numbered_iff hb ha)

theorem components_numbered (g : Graph) : g.numbered.Components g.numbered.components := by
  refine Numbered.components_components fun e he => ?_
  obtain ⟨edge, _, _, hdependent⟩ := (g.mem_edges_numbered e.1 e.2).1 he
  exact (g.paired_numbered.exists_name_iff e.2).1 ⟨_, hdependent⟩

section Classes

variable {components : List (List Nat)} (h : g.numbered.Components components)
include h

theorem exists_name_of_mem {c : List Nat} (hc : c ∈ components) {i : Nat} (hi : i ∈ c) :
    ∃ name, g.numbered.indexOf? name = some i :=
  (g.paired_numbered.exists_name_iff i).2 ((h.covers i).1 (List.mem_flatten.2 ⟨c, hc, hi⟩))

theorem exists_component_of_has {name : String} (hname : g.Has name) :
    ∃ c ∈ components, ∃ i ∈ c, g.numbered.indexOf? name = some i := by
  obtain ⟨i, hi⟩ := (g.exists_indexOf?_numbered name).2 hname
  have hlt := (g.paired_numbered.exists_name_iff i).1 ⟨name, hi⟩
  obtain ⟨c, hc, hic⟩ := List.mem_flatten.1 ((h.covers i).2 hlt)
  exact ⟨c, hc, i, hic, hi⟩

theorem mem_namesOf {c : List Nat} (hc : c ∈ components) {i : Nat} (hi : i ∈ c) {a : String}
    (ha : g.numbered.indexOf? a = some i) (b : String) :
    b ∈ g.numbered.namesOf c ↔ g.Mutual a b := by
  rw [Numbered.namesOf, mem_ascending, mem_filterMap_name?]
  constructor
  · rintro ⟨j, hj, hb⟩
    exact (mutual_numbered_iff ha hb).1 ((h.mem_iff c hc i hi j).1 hj)
  · intro hmutual
    obtain ⟨j, hb⟩ := (exists_indexOf?_iff_of_reaches hmutual.1).1 ⟨i, ha⟩
    exact ⟨j, (h.mem_iff c hc i hi j).2 ((mutual_numbered_iff ha hb).2 hmutual), hb⟩

theorem namesOf_pairwise {c : List Nat} (hc : c ∈ components) :
    (g.numbered.namesOf c).Pairwise (· < ·) := by
  refine ascending_pairwise (List.Nodup.filterMap ?_ ((List.nodup_flatten.1 h.nodup).1 c hc))
  intro i j name hi hj
  have hi' := (g.paired_numbered.indexOf?_iff name i).2 hi
  have hj' := (g.paired_numbered.indexOf?_iff name j).2 hj
  exact Option.some.inj (hi'.symm.trans hj')

theorem length_namesOf {c : List Nat} (hc : c ∈ components) :
    (g.numbered.namesOf c).length = c.length := by
  rw [Numbered.namesOf, length_ascending, List.length_filterMap_eq_countP, List.countP_eq_length]
  intro i hi
  obtain ⟨name, hname⟩ := exists_name_of_mem h hc hi
  exact Option.isSome_iff_exists.2 ⟨name, (g.paired_numbered.indexOf?_iff name i).1 hname⟩

omit h in
theorem mem_cycles_numbered (names : List String) :
    names ∈ g.numbered.cycles components ↔
      ∃ c ∈ components, 1 < c.length ∧ g.numbered.namesOf c = names := by
  simp only [Numbered.cycles, mem_ascending, List.mem_map, List.mem_filter, decide_eq_true_eq,
    and_assoc]

theorem mem_iff_mutual {names : List String} (hnames : names ∈ g.numbered.cycles components)
    {a : String} (ha : a ∈ names) (b : String) : b ∈ names ↔ g.Mutual a b := by
  obtain ⟨c, hc, _, rfl⟩ := (mem_cycles_numbered names).1 hnames
  have hmem := ha
  rw [Numbered.namesOf, mem_ascending, mem_filterMap_name?] at hmem
  obtain ⟨i, hi, hindex⟩ := hmem
  exact mem_namesOf h hc hi hindex b

theorem exists_mem_cycles_iff {a b : String} (hne : a ≠ b) :
    (∃ names ∈ g.numbered.cycles components, a ∈ names ∧ b ∈ names) ↔ g.Mutual a b := by
  constructor
  · rintro ⟨names, hnames, ha, hb⟩
    exact (mem_iff_mutual h hnames ha b).1 hb
  · intro hmutual
    obtain ⟨c, hc, i, hi, ha⟩ := exists_component_of_has h (hmutual.has hne)
    have hmem := mem_namesOf h hc hi ha
    have hlength := one_lt_length_of_mem ((hmem a).2 (.refl a)) ((hmem b).2 hmutual) hne
    rw [length_namesOf h hc] at hlength
    exact ⟨_, (mem_cycles_numbered _).2 ⟨c, hc, hlength, rfl⟩, (hmem a).2 (.refl a),
      (hmem b).2 hmutual⟩

theorem length_and_pairwise {names : List String} (hnames : names ∈ g.numbered.cycles components) :
    2 ≤ names.length ∧ names.Pairwise (· < ·) := by
  obtain ⟨c, hc, hlength, rfl⟩ := (mem_cycles_numbered names).1 hnames
  rw [length_namesOf h hc]
  exact ⟨hlength, namesOf_pairwise h hc⟩

theorem cycles_pairwise : (g.numbered.cycles components).Pairwise (· < ·) := by
  refine ascending_pairwise ?_
  have hdisjoint : (components.filter fun c => 1 < c.length).Pairwise List.Disjoint :=
    (List.nodup_flatten.1 h.nodup).2.filter _
  refine List.pairwise_map.2 (hdisjoint.imp_of_mem ?_)
  intro c c' hc hc' hdisjoint heq
  obtain ⟨hc, hlength⟩ := List.mem_filter.1 hc
  obtain ⟨i, hi⟩ := List.exists_mem_of_length_pos (Nat.lt_of_succ_lt (of_decide_eq_true hlength))
  obtain ⟨name, hname⟩ := exists_name_of_mem h hc hi
  -- the name of `i` is among those of the other component, and only `i` has that name
  have hmem : name ∈ g.numbered.namesOf c := (mem_namesOf h hc hi hname name).2 (.refl name)
  rw [heq, Numbered.namesOf, mem_ascending, mem_filterMap_name?] at hmem
  obtain ⟨j, hj, hname'⟩ := hmem
  obtain rfl := Option.some.inj (hname.symm.trans hname')
  exact hdisjoint hi hj

theorem cycles_flatten_nodup : (g.numbered.cycles components).flatten.Nodup := by
  refine List.nodup_flatten.2 ⟨fun names hnames => (length_and_pairwise h hnames).2.nodup, ?_⟩
  refine (cycles_pairwise h).imp_of_mem ?_
  intro names names' hnames hnames' hlt name hname hname'
  -- two lists with a name in common are the class of that name
  have heq : names = names' := by
    refine (length_and_pairwise h hnames).2.eq_of_mem_iff (length_and_pairwise h hnames').2 ?_
    intro b
    rw [mem_iff_mutual h hnames hname, mem_iff_mutual h hnames' hname']
  rw [heq] at hlt
  exact List.lt_irrefl _ hlt

/-- A class is told by its names, so no other list of components gives other lists of names, nor
does another graph with these edges. -/
theorem mem_cycles_iff (names : List String) :
    names ∈ g.numbered.cycles components ↔
      2 ≤ names.length ∧ names.Pairwise (· < ·) ∧ ∃ a, ∀ b, b ∈ names ↔ g.Mutual a b := by
  constructor
  · intro hnames
    obtain ⟨hlength, hpairwise⟩ := length_and_pairwise h hnames
    obtain ⟨a, ha⟩ := List.exists_mem_of_length_pos (Nat.lt_of_succ_lt hlength)
    exact ⟨hlength, hpairwise, a, mem_iff_mutual h hnames ha⟩
  · rintro ⟨hlength, hpairwise, a, hmem⟩
    have ha : a ∈ names := (hmem a).2 (.refl a)
    obtain ⟨b, hb, hne⟩ := exists_mem_ne hpairwise.nodup hlength a
    obtain ⟨names', hnames', ha', _⟩ := (exists_mem_cycles_iff h hne.symm).2 ((hmem b).1 hb)
    have heq : names' = names := by
      refine (length_and_pairwise h hnames').2.eq_of_mem_iff hpairwise fun x => ?_
      rw [mem_iff_mutual h hnames' ha', hmem]
    rwa [← heq]

end Classes

theorem cycles_congr {g g' : Graph} (hedges : ∀ e, e ∈ g'.edges ↔ e ∈ g.edges)
    {components components' : List (List Nat)} (h : g.numbered.Components components)
    (h' : g'.numbered.Components components') :
    g'.numbered.cycles components' = g.numbered.cycles components := by
  refine (cycles_pairwise h').eq_of_mem_iff (cycles_pairwise h) fun names => ?_
  simp only [mem_cycles_iff h', mem_cycles_iff h, Mutual, reaches_congr hedges]

variable (g)

theorem cycles_eq_nil_iff :
    g.cycles = [] ↔ ¬ ∃ first rest, g.IsCircuit first rest ∧ ∃ name ∈ rest, name ≠ first := by
  have h := g.components_numbered
  rw [List.eq_nil_iff_forall_not_mem]
  constructor
  · rintro hnil ⟨first, rest, hcircuit, name, hname, hne⟩
    obtain ⟨names, hnames, _⟩ := (exists_mem_cycles_iff h hne).2 (hcircuit.mutual hname).symm
    exact hnil names hnames
  · rintro hnone names hnames
    obtain ⟨hlength, hpairwise⟩ := length_and_pairwise h hnames
    obtain ⟨first, hfirst⟩ := List.exists_mem_of_length_pos (Nat.lt_of_succ_lt hlength)
    obtain ⟨name, hname, hne⟩ := exists_mem_ne hpairwise.nodup hlength first
    have hmutual := (mem_iff_mutual h hnames hfirst name).1 hname
    obtain ⟨walk, hcircuit, hwalk⟩ := hmutual.exists_isCircuit hne.symm
    exact hnone ⟨first, walk, hcircuit, name, hwalk, hne⟩

/-- The circular dependencies of a graph. Two names stand in one list just if each reaches the
other, and no name stands anywhere twice; the lists have two names or more, and they and their names
are in order. Neither the order of the edges nor how often they occur matters, nor by which way the
components of the numbered graph are found and in which order; and there is no list just if no way
along the edges from a name back to it passes another name. -/
theorem cycles_exact :
    (∀ a b, a ≠ b → ((∃ names ∈ g.cycles, a ∈ names ∧ b ∈ names) ↔
      Reaches g.edges a b ∧ Reaches g.edges b a)) ∧
    g.cycles.flatten.Nodup ∧
    (∀ names ∈ g.cycles, 2 ≤ names.length ∧ names.Pairwise (· < ·)) ∧
    g.cycles.Pairwise (· < ·) ∧
    (∀ edges, (∀ e, e ∈ edges ↔ e ∈ g.edges) → { g with edges := edges }.cycles = g.cycles) ∧
    (∀ components, g.numbered.Components components →
      g.numbered.cycles components = g.cycles) ∧
    (g.cycles = [] ↔
      ¬ ∃ first rest, g.IsCircuit first rest ∧ ∃ name ∈ rest, name ≠ first) := by
  have h := g.components_numbered
  exact ⟨fun a b hne => exists_mem_cycles_iff h hne, cycles_flatten_nodup h,
    fun names hnames => length_and_pairwise h hnames, cycles_pairwise h,
    fun edges hedges => cycles_congr hedges h (components_numbered _),
    fun components h' => cycles_congr (fun _ => Iff.rfl) h h', g.cycles_eq_nil_iff⟩

-- two circles that touch are one, and a loop is none
example :
    (numbered { edges := [⟨"q", "r"⟩, ⟨"q", "p"⟩, ⟨"p", "q"⟩, ⟨"r", "q"⟩, ⟨"s", "s"⟩,
      ⟨"r", "s"⟩] }).components = [[0, 1, 2], [3]] := by
  decide +kernel

end Graph
end SqlLineage
