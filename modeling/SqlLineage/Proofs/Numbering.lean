import SqlLineage.Graph.Numbered
import SqlLineage.Proofs.Catalog

/-! A graph and its numbered form say the same. Names and numbers are paired off while the names are
scanned, a repetition changes nothing, and by the time that the edges are added each of their ends
has a number. What the numbered form has to be is stated apart from the scan, and the scan gives the
only one. -/

namespace SqlLineage

/-! ### Names without repetitions -/

def distinct (seen : List String) : List String → List String
  | [] => []
  | name :: rest =>
    if seen.contains name then distinct seen rest else name :: distinct (name :: seen) rest

theorem mem_distinct (seen names : List String) (x : String) :
    x ∈ distinct seen names ↔ x ∈ names ∧ x ∉ seen := by
  induction names generalizing seen with
  | nil => simp [distinct]
  | cons name names ih =>
    rw [distinct]
    by_cases hseen : name ∈ seen
    · rw [if_pos (List.contains_iff_mem.2 hseen), ih, List.mem_cons]
      constructor
      · exact fun ⟨hx, hnot⟩ => ⟨.inr hx, hnot⟩
      · rintro ⟨rfl | hx, hnot⟩
        · exact absurd hseen hnot
        · exact ⟨hx, hnot⟩
    · rw [if_neg (by simpa using hseen), List.mem_cons, ih, List.mem_cons, List.mem_cons]
      by_cases hx : x = name
      · subst hx
        simp [hseen]
      · simp [hx]

theorem distinct_congr {seen seen' : List String} (h : ∀ x, x ∈ seen ↔ x ∈ seen')
    (names : List String) : distinct seen names = distinct seen' names := by
  induction names generalizing seen seen' with
  | nil => rfl
  | cons name names ih =>
    have hcontains : seen.contains name = seen'.contains name := by
      rw [Bool.eq_iff_iff, List.contains_iff_mem, List.contains_iff_mem, h]
    have hcons : ∀ x, x ∈ name :: seen ↔ x ∈ name :: seen' := by
      intro x
      rw [List.mem_cons, List.mem_cons, h]
    rw [distinct, distinct, hcontains, ih h, ih hcons]

theorem distinct_append (seen names names' : List String) :
    distinct seen (names ++ names') = distinct seen names ++ distinct (names ++ seen) names' := by
  induction names generalizing seen with
  | nil => rfl
  | cons name names ih =>
    rw [List.cons_append, distinct, distinct, ih, ih]
    by_cases hseen : name ∈ seen
    · have hsame : ∀ x, x ∈ names ++ seen ↔ x ∈ name :: names ++ seen := by
        intro x
        simp only [List.cons_append, List.mem_cons, List.mem_append]
        constructor
        · exact fun h => .inr h
        · rintro (rfl | h)
          · exact .inr hseen
          · exact h
      rw [if_pos (List.contains_iff_mem.2 hseen), if_pos (List.contains_iff_mem.2 hseen),
        distinct_congr hsame]
    · have hsame : ∀ x, x ∈ names ++ name :: seen ↔ x ∈ name :: names ++ seen := by
        intro x
        simp only [List.cons_append, List.mem_cons, List.mem_append]
        exact or_left_comm
      rw [if_neg (by simpa using hseen), if_neg (by simpa using hseen), List.cons_append,
        distinct_congr hsame]

theorem distinct_of_nodup {seen names : List String} (hnodup : names.Nodup)
    (hnew : ∀ x ∈ names, x ∉ seen) : distinct seen names = names := by
  induction names generalizing seen with
  | nil => rfl
  | cons name names ih =>
    obtain ⟨hname, hnodup⟩ := List.nodup_cons.1 hnodup
    obtain ⟨hfirst, hnew⟩ := List.forall_mem_cons.1 hnew
    have hrest : ∀ x ∈ names, x ∉ name :: seen := by
      intro x hx hmem
      rcases List.mem_cons.1 hmem with rfl | hmem
      · exact hname hx
      · exact hnew x hx hmem
    rw [distinct, if_neg (by simpa using hfirst), ih hnodup hrest]

theorem ne_of_mem_distinct {seen names : List String} {name x : String} (hname : name ∈ seen)
    (hx : x ∈ distinct seen names) : name ≠ x := by
  rintro rfl
  exact ((mem_distinct seen names name).1 hx).2 hname

theorem distinct_pairwise (seen names : List String) :
    (distinct seen names).Pairwise fun a b => names.idxOf a < names.idxOf b := by
  induction names generalizing seen with
  | nil => exact List.Pairwise.nil
  | cons name names ih =>
    -- one name more in front moves all other names by one place
    have hmoved : ∀ seen', name ∈ seen' → (distinct seen' names).Pairwise fun a b =>
        (name :: names).idxOf a < (name :: names).idxOf b := by
      intro seen' hname
      refine List.Pairwise.imp_of_mem ?_ (ih seen')
      intro a b ha hb hlt
      rw [List.idxOf_cons_ne names (ne_of_mem_distinct hname ha),
        List.idxOf_cons_ne names (ne_of_mem_distinct hname hb)]
      exact Nat.succ_lt_succ hlt
    rw [distinct]
    by_cases hseen : name ∈ seen
    · rw [if_pos (List.contains_iff_mem.2 hseen)]
      exact hmoved seen hseen
    · rw [if_neg (by simpa using hseen), List.pairwise_cons]
      refine ⟨fun x hx => ?_, hmoved (name :: seen) List.mem_cons_self⟩
      rw [List.idxOf_cons_self, List.idxOf_cons_ne names (ne_of_mem_distinct List.mem_cons_self hx)]
      exact Nat.succ_pos _

/-! ### Adding names and edges -/

namespace Numbered

variable {n : Numbered}

/-- A name has a number just if it stands at that place. -/
structure Paired (n : Numbered) : Prop where
  sorted : n.indices.Sorted
  indexOf?_iff : ∀ name i, n.indexOf? name = some i ↔ n.names[i]? = some name

theorem paired_empty : Paired {} where
  sorted := Catalog.sorted_nil
  indexOf?_iff name i := by simp [indexOf?, Catalog.find?]

theorem Paired.exists_indexOf?_iff (h : n.Paired) (name : String) :
    (∃ i, n.indexOf? name = some i) ↔ name ∈ n.names := by
  simp only [h.indexOf?_iff, List.mem_iff_getElem?]

theorem Paired.exists_name_iff (h : n.Paired) (i : Nat) :
    (∃ name, n.indexOf? name = some i) ↔ i < n.names.length := by
  simp only [h.indexOf?_iff]
  constructor
  · rintro ⟨name, hi⟩
    exact (List.getElem?_eq_some_iff.1 hi).1
  · intro hi
    exact ⟨n.names[i], List.getElem?_eq_getElem hi⟩

theorem Paired.contains_iff (h : n.Paired) (name : String) :
    n.indices.contains name = true ↔ name ∈ n.names := by
  rw [Catalog.contains, Option.isSome_iff_exists]
  exact h.exists_indexOf?_iff name

theorem Paired.addName_of_mem (h : n.Paired) {name : String} (hmem : name ∈ n.names) :
    n.addName name = n := by
  rw [addName, if_pos ((h.contains_iff name).2 hmem)]

theorem Paired.addName_of_not_mem (h : n.Paired) {name : String} (hnew : name ∉ n.names) :
    n.addName name =
      { n with names := n.names ++ [name], indices := n.indices.insert name n.names.length } := by
  have hcontains : ¬ n.indices.contains name = true := by rwa [h.contains_iff]
  rw [addName, if_neg hcontains]

theorem getElem?_concat_iff (names : List String) (name key : String) (i : Nat) :
    (names ++ [name])[i]? = some key ↔
      names[i]? = some key ∨ i = names.length ∧ key = name := by
  rw [List.getElem?_append]
  split_ifs with hlt
  · simp [hlt.ne]
  · have hbehind : names[i]? = none := List.getElem?_eq_none (Nat.le_of_not_lt hlt)
    rw [List.getElem?_singleton, hbehind]
    split_ifs with hi
    · have hlast : i = names.length := by omega
      simp [hlast, eq_comm]
    · have hlast : i ≠ names.length := by omega
      simp [hlast]

theorem Paired.addName (h : n.Paired) (name : String) : (n.addName name).Paired := by
  by_cases hmem : name ∈ n.names
  · rwa [h.addName_of_mem hmem]
  rw [h.addName_of_not_mem hmem]
  refine ⟨h.sorted.insert name _, fun key i => ?_⟩
  rw [indexOf?, Catalog.find?_insert, getElem?_concat_iff]
  split_ifs with hkey
  · subst hkey
    have hother : n.names[i]? ≠ some key := fun hi => hmem (List.mem_of_getElem? hi)
    simp [hother, eq_comm]
  · have hold := h.indexOf?_iff key i
    rw [indexOf?] at hold
    simp [hold, hkey]

theorem Paired.foldl_addName (h : n.Paired) (names : List String) :
    (names.foldl Numbered.addName n).Paired := by
  induction names generalizing n with
  | nil => exact h
  | cons name names ih => exact ih (h.addName name)

theorem Paired.names_foldl_addName (h : n.Paired) (names : List String) :
    (names.foldl Numbered.addName n).names = n.names ++ distinct n.names names := by
  induction names generalizing n with
  | nil => exact (List.append_nil n.names).symm
  | cons name names ih =>
    rw [List.foldl_cons, ih (h.addName name), distinct]
    by_cases hmem : name ∈ n.names
    · rw [h.addName_of_mem hmem, if_pos (List.contains_iff_mem.2 hmem)]
    · have hsame : ∀ x, x ∈ n.names ++ [name] ↔ x ∈ name :: n.names := by
        intro x
        rw [List.mem_append, List.mem_singleton, List.mem_cons, or_comm]
      rw [h.addName_of_not_mem hmem, if_neg (by simpa using hmem), distinct_congr hsame,
        List.append_assoc]
      rfl

theorem Paired.edges_foldl_addName (h : n.Paired) (names : List String) :
    (names.foldl Numbered.addName n).edges = n.edges := by
  induction names generalizing n with
  | nil => rfl
  | cons name names ih =>
    rw [List.foldl_cons, ih (h.addName name)]
    by_cases hmem : name ∈ n.names
    · rw [h.addName_of_mem hmem]
    · rw [h.addName_of_not_mem hmem]

theorem addEdge_of_some {e : Edge} {a b : Nat} (ha : n.indexOf? e.dependency = some a)
    (hb : n.indexOf? e.dependent = some b) :
    n.addEdge e = { n with edges := n.edges ++ [(a, b)] } := by
  simp only [addEdge, ha, hb]

theorem foldl_addEdge {edges : List Edge}
    (h : ∀ e ∈ edges,
      (∃ a, n.indexOf? e.dependency = some a) ∧ ∃ b, n.indexOf? e.dependent = some b) :
    ∃ added, edges.foldl addEdge n = { n with edges := n.edges ++ added } ∧
      added.map (fun e => (some e.1, some e.2)) =
        edges.map fun e => (n.indexOf? e.dependency, n.indexOf? e.dependent) := by
  induction edges generalizing n with
  | nil => exact ⟨[], by rw [List.append_nil]; rfl, rfl⟩
  | cons e edges ih =>
    obtain ⟨⟨⟨a, ha⟩, b, hb⟩, h⟩ := List.forall_mem_cons.1 h
    obtain ⟨added, hfold, hadded⟩ := @ih { n with edges := n.edges ++ [(a, b)] } h
    refine ⟨(a, b) :: added, ?_, ?_⟩
    · rw [List.foldl_cons, addEdge_of_some ha hb, hfold, List.append_assoc]
      rfl
    · rw [List.map_cons, List.map_cons, hadded, ha, hb]
      rfl

end Numbered

namespace Graph

variable {g : Graph}

/-- The name is that of a node or stands at an end of an edge. -/
def Has (g : Graph) (name : String) : Prop :=
  name ∈ g.nodes.names ∨ ∃ e ∈ g.edges, name = e.dependency ∨ name = e.dependent

/-- What it means that a graph is told in numbers. -/
structure NumberedAs (g : Graph) (n : Numbered) : Prop where
  sorted : n.indices.Sorted
  has : ∀ name, (∃ i, n.indexOf? name = some i) ↔ g.Has name
  taken : ∀ i, (∃ name, n.indexOf? name = some i) ↔ i < n.names.length
  inverse : ∀ name i, n.indexOf? name = some i ↔ n.names[i]? = some name
  /-- The nodes come first, the other ends of edges follow as they appear. -/
  order : ∃ others, n.names = g.nodes.names ++ others ∧
    (∀ name, name ∈ others ↔ name ∈ g.edgeNames ∧ name ∉ g.nodes.names) ∧
    others.Pairwise fun a b => g.edgeNames.idxOf a < g.edgeNames.idxOf b
  /-- Each edge is there at its place, between the numbers of its ends. -/
  edges : n.edges.map (fun e => (some e.1, some e.2)) =
    g.edges.map fun e => (n.indexOf? e.dependency, n.indexOf? e.dependent)

theorem paired_numberedNames (g : Graph) : g.numberedNames.Paired :=
  Numbered.paired_empty.foldl_addName _

theorem names_numberedNames (g : Graph) :
    g.numberedNames.names = distinct [] (g.nodes.names ++ g.edgeNames) :=
  Numbered.paired_empty.names_foldl_addName _

theorem exists_indexOf?_numberedNames (g : Graph) (name : String) :
    (∃ i, g.numberedNames.indexOf? name = some i) ↔ g.Has name := by
  rw [g.paired_numberedNames.exists_indexOf?_iff, names_numberedNames, mem_distinct,
    List.mem_append]
  simp [Has, edgeNames]

theorem exists_numbered_eq (g : Graph) :
    ∃ added, g.numbered = { g.numberedNames with edges := added } ∧
      added.map (fun e => (some e.1, some e.2)) =
        g.edges.map fun e =>
          (g.numberedNames.indexOf? e.dependency, g.numberedNames.indexOf? e.dependent) := by
  have hends : ∀ e ∈ g.edges, (∃ a, g.numberedNames.indexOf? e.dependency = some a) ∧
      ∃ b, g.numberedNames.indexOf? e.dependent = some b := by
    intro e he
    rw [exists_indexOf?_numberedNames, exists_indexOf?_numberedNames]
    exact ⟨.inr ⟨e, he, .inl rfl⟩, .inr ⟨e, he, .inr rfl⟩⟩
  have hnone : g.numberedNames.edges = [] := Numbered.paired_empty.edges_foldl_addName _
  obtain ⟨added, hfold, hadded⟩ := Numbered.foldl_addEdge hends
  rw [hnone, List.nil_append] at hfold
  exact ⟨added, hfold, hadded⟩

theorem paired_numbered (g : Graph) : g.numbered.Paired := by
  obtain ⟨added, hnumbered, -⟩ := g.exists_numbered_eq
  rw [hnumbered]
  exact ⟨g.paired_numberedNames.sorted, g.paired_numberedNames.indexOf?_iff⟩

theorem exists_indexOf?_numbered (g : Graph) (name : String) :
    (∃ i, g.numbered.indexOf? name = some i) ↔ g.Has name := by
  obtain ⟨added, hnumbered, -⟩ := g.exists_numbered_eq
  rw [hnumbered]
  exact g.exists_indexOf?_numberedNames name

theorem map_edges_numbered (g : Graph) :
    g.numbered.edges.map (fun e => (some e.1, some e.2)) =
      g.edges.map fun e => (g.numbered.indexOf? e.dependency, g.numbered.indexOf? e.dependent) := by
  obtain ⟨added, hnumbered, hadded⟩ := g.exists_numbered_eq
  rw [hnumbered]
  exact hadded

theorem mem_edges_numbered (g : Graph) (i j : Nat) :
    (i, j) ∈ g.numbered.edges ↔ ∃ e ∈ g.edges,
      g.numbered.indexOf? e.dependency = some i ∧ g.numbered.indexOf? e.dependent = some j := by
  have hmap : (i, j) ∈ g.numbered.edges ↔
      (some i, some j) ∈ g.numbered.edges.map fun e => (some e.1, some e.2) := by
    simp [List.mem_map]
  rw [hmap, map_edges_numbered, List.mem_map]
  simp only [Prod.mk.injEq]

theorem names_eq_append (h : g.nodes.Sorted) :
    g.numberedNames.names = g.nodes.names ++ distinct g.nodes.names g.edgeNames := by
  have hnodup : g.nodes.names.Nodup := h.imp fun hlt => hlt.ne
  rw [names_numberedNames, distinct_append,
    distinct_of_nodup hnodup fun _ _ => List.not_mem_nil, List.append_nil]

theorem numberedAs_numbered (h : g.nodes.Sorted) : g.NumberedAs g.numbered := by
  have hpaired := g.paired_numbered
  refine ⟨hpaired.sorted, g.exists_indexOf?_numbered, hpaired.exists_name_iff,
    hpaired.indexOf?_iff, ?_, g.map_edges_numbered⟩
  refine ⟨distinct g.nodes.names g.edgeNames, ?_, mem_distinct _ _, distinct_pairwise _ _⟩
  obtain ⟨added, hnumbered, -⟩ := g.exists_numbered_eq
  rw [hnumbered]
  exact names_eq_append h

theorem NumberedAs.names_eq {n n' : Numbered} (h : g.NumberedAs n) (h' : g.NumberedAs n') :
    n.names = n'.names := by
  obtain ⟨others, hnames, hmem, horder⟩ := h.order
  obtain ⟨others', hnames', hmem', horder'⟩ := h'.order
  have hnodup : ∀ {l : List String},
      l.Pairwise (fun a b => g.edgeNames.idxOf a < g.edgeNames.idxOf b) → l.Nodup := by
    intro l hl
    refine hl.imp ?_
    rintro a b hlt rfl
    exact lt_irrefl _ hlt
  have hperm : others.Perm others' := by
    rw [List.perm_ext_iff_of_nodup (hnodup horder) (hnodup horder')]
    intro name
    rw [hmem, hmem']
  have hothers : others = others' :=
    hperm.eq_of_pairwise (fun a b _ _ hab hba => absurd hab hba.asymm) horder horder'
  rw [hnames, hnames', hothers]

theorem NumberedAs.unique {n n' : Numbered} (h : g.NumberedAs n) (h' : g.NumberedAs n') :
    n = n' := by
  have hnames := h.names_eq h'
  have hindices : n.indices = n'.indices := by
    refine h.sorted.ext h'.sorted fun name => Option.ext fun i => ?_
    rw [← Numbered.indexOf?, ← Numbered.indexOf?, h.inverse, h'.inverse, hnames]
  have hindex : ∀ name, n.indexOf? name = n'.indexOf? name := by
    intro name
    rw [Numbered.indexOf?, Numbered.indexOf?, hindices]
  have hinjective : Function.Injective fun e : Nat × Nat => (some e.1, some e.2) := by
    intro e e' heq
    simpa [Prod.ext_iff] using heq
  have hedges : n.edges = n'.edges := by
    apply List.map_injective_iff.2 hinjective
    rw [h.edges, h'.edges]
    simp only [hindex]
  exact Numbered.ext hnames hindices hedges

/-- A graph is told in numbers by its numbered form and by nothing else: the names that it has, node
names first and the rest by first appearance, are paired off with the numbers from zero on, and its
edges are those of the graph in the same order. -/
theorem numbered_exact (h : g.nodes.Sorted) :
    g.NumberedAs g.numbered ∧ ∀ n, g.NumberedAs n → n = g.numbered :=
  ⟨numberedAs_numbered h, fun _ hn => hn.unique (numberedAs_numbered h)⟩

def looseEnds : Graph :=
  { edges := [⟨"z", "a"⟩, ⟨"a", "z"⟩, ⟨"c", "c"⟩, ⟨"z", "a"⟩, ⟨"b", "c"⟩]
    nodes := [("a", ⟨.table, none, "a", none, true⟩), ("c", ⟨.view, none, "c", some "", false⟩),
      ("d", ⟨.table, none, "d", none, true⟩)] }

theorem numbered_exact_looseEnds :
    looseEnds.nodes.Sorted ∧ looseEnds.numbered =
      { names := ["a", "c", "d", "z", "b"]
        indices := [("a", 0), ("b", 4), ("c", 1), ("d", 2), ("z", 3)]
        edges := [(3, 0), (0, 3), (1, 1), (3, 0), (4, 1)] } ∧
      looseEnds.NumberedAs looseEnds.numbered := by
  have h : looseEnds.nodes.Sorted := by
    rw [Catalog.Sorted]
    decide
  exact ⟨h, by decide +kernel, (numbered_exact h).1⟩

end Graph
end SqlLineage
