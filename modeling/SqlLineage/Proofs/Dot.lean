import SqlLineage.Graph.Dot
import SqlLineage.Proofs.Catalog

/-! A drawing tells what it draws. Every quote in a name or a schema is escaped, so the first bare
quote ends the quoted text, and what follows it tells a node from an edge. -/

namespace SqlLineage

theorem dotEscapeChars_append (a b : List Char) :
    dotEscapeChars (a ++ b) = dotEscapeChars a ++ dotEscapeChars b := by
  simp only [dotEscapeChars, escapeChar, List.flatMap_append]

/-- The two passes are one: neither escapes what the other has put in. -/
theorem dotEscapeChars_cons (c : Char) (cs : List Char) :
    dotEscapeChars (c :: cs) =
      if c = '\\' ∨ c = '"' then '\\' :: c :: dotEscapeChars cs else c :: dotEscapeChars cs := by
  by_cases hbackslash : c = '\\'
  · subst hbackslash
    simp [dotEscapeChars, escapeChar]
  by_cases hquote : c = '"'
  · subst hquote
    simp [dotEscapeChars, escapeChar]
  simp [dotEscapeChars, escapeChar, hbackslash, hquote]

theorem dotEscapeChars_of_plain {cs : List Char} (h : ∀ c ∈ cs, c ≠ '\\' ∧ c ≠ '"') :
    dotEscapeChars cs = cs := by
  induction cs with
  | nil => rfl
  | cons c cs ih =>
    obtain ⟨hbackslash, hquote⟩ := h c List.mem_cons_self
    rw [dotEscapeChars_cons, ih fun d hd => h d (List.mem_cons_of_mem c hd)]
    simp [hbackslash, hquote]

theorem dotEscapeChars_cons_ne_quote (c : Char) (a x y : List Char) :
    dotEscapeChars (c :: a) ++ x ≠ '"' :: y := by
  rw [dotEscapeChars_cons]
  split <;> grind

/-- The first bare quote ends an escaped text. -/
theorem dotEscapeChars_quote_inj {a b x y : List Char}
    (h : dotEscapeChars a ++ '"' :: x = dotEscapeChars b ++ '"' :: y) : a = b ∧ x = y := by
  induction a generalizing b with
  | nil =>
    cases b with
    | nil => exact ⟨rfl, (List.cons.inj h).2⟩
    | cons d b => exact absurd h.symm (dotEscapeChars_cons_ne_quote d b _ x)
  | cons c a ih =>
    cases b with
    | nil => exact absurd h (dotEscapeChars_cons_ne_quote c a _ y)
    | cons d b =>
      have hcons : c = d ∧ dotEscapeChars a ++ '"' :: x = dotEscapeChars b ++ '"' :: y := by
        rw [dotEscapeChars_cons, dotEscapeChars_cons] at h
        split at h <;> split at h <;> grind
      obtain ⟨rfl, hrest⟩ := hcons
      obtain ⟨rfl, hxy⟩ := ih hrest
      exact ⟨rfl, hxy⟩

def dotDetail (n : Node) : List Char :=
  match n.schema with
  | some schema => schema.toList ++ ',' :: ' ' :: n.kind.name.toList ++ [')']
  | none => n.kind.name.toList ++ [')']

theorem Kind.name_plain (k : Kind) : ∀ c ∈ k.name.toList, c ≠ '\\' ∧ c ≠ '"' := by
  cases k <;> simp [name]

theorem Kind.dotStyle_injective : Function.Injective Kind.dotStyle := by
  intro k k' h
  cases k <;> cases k' <;> simp [dotStyle] at h ⊢

theorem Kind.bracket_not_mem_dotStyle (k : Kind) : ']' ∉ k.dotStyle.toList := by
  cases k <;> simp [dotStyle]

theorem Kind.dotStyle_bracket_inj {k k' : Kind} {x y : List Char}
    (h : k.dotStyle.toList ++ ']' :: x = k'.dotStyle.toList ++ ']' :: y) : k = k' ∧ x = y := by
  have htake := congrArg (List.takeWhile (· != ']')) h
  have hstyle : ∀ (k : Kind) (x : List Char),
      (k.dotStyle.toList ++ ']' :: x).takeWhile (· != ']') = k.dotStyle.toList := by
    intro k x
    rw [List.takeWhile_append_of_pos]
    · simp
    · intro c hc
      exact bne_iff_ne.2 fun heq => k.bracket_not_mem_dotStyle (heq ▸ hc)
  rw [hstyle, hstyle] at htake
  obtain rfl := Kind.dotStyle_injective (String.toList_inj.1 htake)
  exact ⟨rfl, (List.cons.inj (List.append_cancel_left h)).2⟩

theorem dotDetail_inj {n m : Node} (hkind : n.kind = m.kind) (h : dotDetail n = dotDetail m) :
    n.schema = m.schema := by
  cases hn : n.schema with
  | none =>
    cases hm : m.schema with
    | none => rfl
    | some schema =>
      have hlength := congrArg List.length h
      simp only [dotDetail, hn, hm, hkind, List.length_append, List.length_cons] at hlength
      omega
  | some schema =>
    cases hm : m.schema with
    | none =>
      have hlength := congrArg List.length h
      simp only [dotDetail, hn, hm, hkind, List.length_append, List.length_cons] at hlength
      omega
    | some schema' =>
      simp only [dotDetail, hn, hm, hkind, List.append_cancel_right_eq, String.toList_inj] at h
      rw [h]

theorem toList_dotLabel (name : String) (n : Node) :
    (dotLabel name n).toList =
      dotEscapeChars name.toList ++ '\\' :: 'n' :: '(' :: dotEscapeChars (dotDetail n) := by
  have hplain : ∀ cs : List Char, cs = n.kind.name.toList ++ [')'] → dotEscapeChars cs = cs := by
    rintro cs rfl
    rw [dotEscapeChars_append, dotEscapeChars_of_plain n.kind.name_plain]
    rfl
  cases hschema : n.schema with
  | none => simp [dotLabel, dotDetail, dotEscape, hschema, hplain]
  | some schema =>
    simp [dotLabel, dotDetail, dotEscape, hschema, dotEscapeChars_append, hplain,
      dotEscapeChars_cons]

theorem toList_dotNode (entry : String × Node) :
    (dotNode entry).toList = ' ' :: ' ' :: '"' :: (dotEscapeChars entry.1.toList ++
      '"' :: (" [label=\"".toList ++ dotEscapeChars entry.1.toList ++ '\\' :: 'n' :: '(' ::
        (dotEscapeChars (dotDetail entry.2) ++
          '"' :: ',' :: ' ' :: (entry.2.kind.dotStyle.toList ++ ']' :: ';' :: ['\n'])))) := by
  simp [dotNode, dotQuoted, dotEscape, toList_dotLabel]

theorem toList_dotEdge (e : Edge) :
    (dotEdge e).toList = ' ' :: ' ' :: '"' :: (dotEscapeChars e.dependency.toList ++
      '"' :: ' ' :: '-' :: '>' :: ' ' :: '"' :: (dotEscapeChars e.dependent.toList ++
        '"' :: ';' :: ['\n'])) := by
  simp [dotEdge, dotQuoted, dotEscape]

theorem dotNode_inj {e e' : String × Node} {x y : List Char}
    (h : (dotNode e).toList ++ x = (dotNode e').toList ++ y) :
    (e.1, e.2.kind, e.2.schema) = (e'.1, e'.2.kind, e'.2.schema) ∧ x = y := by
  obtain ⟨name, n⟩ := e
  obtain ⟨name', n'⟩ := e'
  simp only [toList_dotNode, List.cons_append, List.append_assoc, List.cons.injEq, true_and] at h
  obtain ⟨hname, h⟩ := dotEscapeChars_quote_inj h
  obtain rfl := String.toList_inj.1 hname
  simp only [List.append_cancel_left_eq, List.cons.injEq, true_and] at h
  obtain ⟨hdetail, h⟩ := dotEscapeChars_quote_inj h
  simp only [List.cons.injEq, true_and] at h
  obtain ⟨hkind, h⟩ := Kind.dotStyle_bracket_inj h
  refine ⟨?_, by simpa using h⟩
  rw [hkind, dotDetail_inj hkind hdetail]

theorem dotEdge_inj {e e' : Edge} {x y : List Char}
    (h : (dotEdge e).toList ++ x = (dotEdge e').toList ++ y) : e = e' ∧ x = y := by
  obtain ⟨dependency, dependent⟩ := e
  obtain ⟨dependency', dependent'⟩ := e'
  simp only [toList_dotEdge, List.cons_append, List.append_assoc, List.cons.injEq, true_and] at h
  obtain ⟨hdependency, h⟩ := dotEscapeChars_quote_inj h
  simp only [List.cons.injEq, true_and] at h
  obtain ⟨hdependent, h⟩ := dotEscapeChars_quote_inj h
  rw [String.toList_inj.1 hdependency, String.toList_inj.1 hdependent]
  exact ⟨rfl, by simpa using h⟩

theorem dotNode_ne_dotEdge (e : String × Node) (e' : Edge) (x y : List Char) :
    (dotNode e).toList ++ x ≠ (dotEdge e').toList ++ y := by
  intro h
  simp only [toList_dotNode, toList_dotEdge, List.cons_append, List.append_assoc, List.cons.injEq,
    true_and] at h
  have hafter := (dotEscapeChars_quote_inj h).2
  simp at hafter

theorem dotEdges_inj {es es' : List Edge}
    (h : es.flatMap (fun e => (dotEdge e).toList) ++ ['\x7d', '\n'] =
      es'.flatMap (fun e => (dotEdge e).toList) ++ ['\x7d', '\n']) : es = es' := by
  induction es generalizing es' with
  | nil =>
    cases es' with
    | nil => rfl
    | cons e' es' => simp [toList_dotEdge] at h
  | cons e es ih =>
    cases es' with
    | nil => simp [toList_dotEdge] at h
    | cons e' es' =>
      simp only [List.flatMap_cons, List.append_assoc] at h
      obtain ⟨rfl, hrest⟩ := dotEdge_inj h
      rw [ih hrest]

theorem dotNode_ne_dotEdges (e : String × Node) (es : List Edge) (x : List Char) :
    (dotNode e).toList ++ x ≠ es.flatMap (fun e => (dotEdge e).toList) ++ ['\x7d', '\n'] := by
  cases es with
  | nil => simp [toList_dotNode]
  | cons e' es =>
    rw [List.flatMap_cons, List.append_assoc]
    exact dotNode_ne_dotEdge e e' x _

theorem dotNodes_inj {ns ns' : List (String × Node)} {es es' : List Edge}
    (h : ns.flatMap (fun e => (dotNode e).toList) ++
        (es.flatMap (fun e => (dotEdge e).toList) ++ ['\x7d', '\n']) =
      ns'.flatMap (fun e => (dotNode e).toList) ++
        (es'.flatMap (fun e => (dotEdge e).toList) ++ ['\x7d', '\n'])) :
    Catalog.summary (fun n => (n.kind, n.schema)) ns =
      Catalog.summary (fun n => (n.kind, n.schema)) ns' ∧ es = es' := by
  induction ns generalizing ns' with
  | nil =>
    cases ns' with
    | nil => exact ⟨rfl, dotEdges_inj h⟩
    | cons e' ns' =>
      rw [List.flatMap_cons, List.append_assoc] at h
      exact absurd h.symm (dotNode_ne_dotEdges e' es _)
  | cons e ns ih =>
    cases ns' with
    | nil =>
      rw [List.flatMap_cons, List.append_assoc] at h
      exact absurd h (dotNode_ne_dotEdges e es' _)
    | cons e' ns' =>
      simp only [List.flatMap_cons, List.append_assoc] at h
      obtain ⟨hentry, hrest⟩ := dotNode_inj h
      obtain ⟨hentries, hedges⟩ := ih hrest
      refine ⟨?_, hedges⟩
      rw [Catalog.summary] at hentries ⊢
      rw [Catalog.summary, List.map_cons, List.map_cons, hentry, hentries]
      rfl

theorem dotNode_congr {e e' : String × Node}
    (h : (e.1, e.2.kind, e.2.schema) = (e'.1, e'.2.kind, e'.2.schema)) :
    dotNode e = dotNode e' := by
  obtain ⟨name, n⟩ := e
  obtain ⟨name', n'⟩ := e'
  simp only [Prod.mk.injEq] at h
  obtain ⟨rfl, hkind, hschema⟩ := h
  simp only [dotNode, dotLabel, hkind, hschema]

theorem map_dotNode_congr {ns ns' : Catalog Node}
    (h : Catalog.summary (fun n => (n.kind, n.schema)) ns =
      Catalog.summary (fun n => (n.kind, n.schema)) ns') : ns.map dotNode = ns'.map dotNode := by
  induction ns generalizing ns' with
  | nil =>
    rw [List.map_eq_nil_iff.1 h.symm]
  | cons e ns ih =>
    cases ns' with
    | nil => exact absurd h (List.cons_ne_nil _ _)
    | cons e' ns' =>
      obtain ⟨hentry, hentries⟩ := List.cons.inj h
      rw [List.map_cons, List.map_cons, dotNode_congr hentry, ih hentries]

theorem Graph.exists_toList_toDot : ∃ opening : List Char, ∀ g : Graph,
    g.toDot.toList = opening ++ (g.nodes.flatMap (fun e => (dotNode e).toList) ++
      (g.edges.flatMap (fun e => (dotEdge e).toList) ++ ['\x7d', '\n'])) := by
  have hend : "\x7d\n".toList = ['\x7d', '\n'] := by decide
  refine ⟨"digraph lineage \x7b\n  rankdir=LR;\n  node [fontname=\"Helvetica\"];\n".toList,
    fun g => ?_⟩
  unfold toDot
  rw [String.toList_append, String.toList_append, String.toList_append, String.toList_join,
    String.toList_join, List.flatMap_map, List.flatMap_map, hend, List.append_assoc,
    List.append_assoc]

/-- Two graphs have the same drawing just if they have the same names with the same kinds and
schemas, and the same edges in the same order. -/
theorem Graph.toDot_eq_iff (g g' : Graph) :
    g.toDot = g'.toDot ↔
      Catalog.summary (fun n => (n.kind, n.schema)) g.nodes =
        Catalog.summary (fun n => (n.kind, n.schema)) g'.nodes ∧ g.edges = g'.edges := by
  constructor
  · intro h
    obtain ⟨opening, hdrawn⟩ := exists_toList_toDot
    have hchars := congrArg String.toList h
    rw [hdrawn, hdrawn, List.append_cancel_left_eq] at hchars
    exact dotNodes_inj hchars
  · rintro ⟨hnodes, hedges⟩
    unfold toDot
    rw [map_dotNode_congr hnodes, hedges]

end SqlLineage
