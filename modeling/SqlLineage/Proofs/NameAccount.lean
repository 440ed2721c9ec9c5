import SqlLineage.Proofs.Registry
import SqlLineage.Proofs.RunHistory

/-! The account of a name. Every look at a name changes the node of that name only, so a history is
followed name by name; of the order of the looks nothing is left in the end but which of three sorts
of news about the name there was. -/

namespace SqlLineage

namespace Sighting

variable (guess : String → Kind)

/-- The name counts as that of a common table expression from here on. -/
def MarksCte : Sighting → Prop
  | declared _ => True
  | created _ _ _ => False
  | read scope r => r.base ∈ scope

def createdKind? : Sighting → Option Kind
  | created _ kind _ => some kind
  | _ => none

def node (node? : Option Node) : Sighting → Node
  | declared c => .registered node? c.reference .cteView (some c.definition)
  | created r kind definition => .registered node? r kind (some definition)
  | read scope r =>
    if scope.contains r.base then .registered node? r .cteView none
    else .mentioned node? r (guess r.base)

theorem apply_eq (x : Sighting) (hx : x.reference.base ≠ "") (nodes : Registry) :
    x.apply guess nodes =
      nodes.insert x.reference.base (x.node guess (nodes.find? x.reference.base)) := by
  cases x with
  | declared c => exact Registry.register_eq hx nodes _ _
  | created r kind definition => exact Registry.register_eq hx nodes _ _
  | read scope r =>
    have hr : r.base ≠ "" := hx
    simp only [apply, Builder.registerDependency, reference, node]
    split
    · exact Registry.register_eq hr nodes _ _
    · -- a name that is registered already is registered again as what it is
      cases hfind : nodes.find? r.base with
      | none =>
        simp only [Registry.kindOf?, hfind, Option.map_none]
        rw [Registry.registerInferred_eq hr, hfind]
      | some n =>
        simp only [Registry.kindOf?, hfind, Option.map_some]
        rw [Registry.register_eq hr, hfind]
        rfl

def sightingsAt (base : String) (seen : List Sighting) : List Sighting :=
  seen.filter fun x => x.reference.base == base

theorem find?_foldl_apply (seen : List Sighting) (hseen : ∀ x ∈ seen, x.reference.base ≠ "")
    (nodes : Registry) (base : String) :
    (seen.foldl (apply guess) nodes).find? base =
      (sightingsAt base seen).foldl (fun node? x => some (x.node guess node?))
        (nodes.find? base) := by
  induction seen generalizing nodes with
  | nil => rfl
  | cons x seen ih =>
    have hx := x.apply_eq guess (hseen x List.mem_cons_self) nodes
    rw [List.foldl_cons, ih fun y hy => hseen y (List.mem_cons_of_mem x hy), hx,
      Catalog.find?_insert]
    by_cases hbase : base = x.reference.base
    · subst hbase
      rw [if_pos rfl, sightingsAt, sightingsAt, List.filter_cons_of_pos (by simp),
        List.foldl_cons]
    · rw [if_neg hbase, sightingsAt, sightingsAt,
        List.filter_cons_of_neg (by simpa using Ne.symm hbase)]

theorem mem_sightingsAt {base : String} {seen : List Sighting} {x : Sighting} :
    x ∈ sightingsAt base seen ↔ x ∈ seen ∧ x.reference.base = base := by
  rw [sightingsAt, List.mem_filter, beq_iff_eq]

theorem exists_first_look {guess : String → Kind} {seen : List Sighting}
    (hseen : ∀ x ∈ seen, x.reference.base ≠ "") {base : String} {n : Node}
    (h : Catalog.find? (seen.foldl (apply guess) []) base = some n) :
    ∃ x more, sightingsAt base seen = x :: more ∧ x.reference.base = base ∧
      more.foldl (fun node? y => some (y.node guess node?)) (some (x.node guess none)) =
        some n := by
  rw [find?_foldl_apply guess seen hseen] at h
  cases hlooks : sightingsAt base seen with
  | nil =>
    rw [hlooks] at h
    cases h
  | cons x more =>
    have hx : x ∈ sightingsAt base seen := by
      rw [hlooks]
      exact List.mem_cons_self
    rw [hlooks] at h
    exact ⟨x, more, rfl, (mem_sightingsAt.1 hx).2, h⟩

theorem mem_names_foldl_apply (seen : List Sighting)
    (hseen : ∀ x ∈ seen, x.reference.base ≠ "") (nodes : Registry) (base : String) :
    base ∈ Catalog.names (seen.foldl (apply guess) nodes) ↔
      base ∈ nodes.names ∨ ∃ x ∈ seen, x.reference.base = base := by
  induction seen generalizing nodes with
  | nil => simp
  | cons x seen ih =>
    have hx := x.apply_eq guess (hseen x List.mem_cons_self) nodes
    rw [List.foldl_cons, ih fun y hy => hseen y (List.mem_cons_of_mem x hy), hx,
      Catalog.mem_names_insert]
    constructor
    · rintro ((rfl | h) | ⟨y, hy, hbase⟩)
      · exact .inr ⟨x, List.mem_cons_self, rfl⟩
      · exact .inl h
      · exact .inr ⟨y, List.mem_cons_of_mem x hy, hbase⟩
    · rintro (h | ⟨y, hy, hbase⟩)
      · exact .inl (.inr h)
      · rcases List.mem_cons.1 hy with rfl | hy
        · exact .inl (.inl hbase.symm)
        · exact .inr ⟨y, hy, hbase⟩

theorem sorted_foldl_apply (seen : List Sighting) (hseen : ∀ x ∈ seen, x.reference.base ≠ "")
    (nodes : Registry) (h : nodes.Sorted) :
    Catalog.Sorted (seen.foldl (apply guess) nodes) := by
  induction seen generalizing nodes with
  | nil => exact h
  | cons x seen ih =>
    have hx := x.apply_eq guess (hseen x List.mem_cons_self) nodes
    rw [List.foldl_cons, hx]
    exact ih (fun y hy => hseen y (List.mem_cons_of_mem x hy)) _ (h.insert _ _)

/-- What the looks at one name make of its node, whatever their order: any sign of a common table
expression outweighs all else, then the highest of the kinds it is created as, then the guess. -/
inductive Accounts (base : String) (looks : List Sighting) (n : Node) : Prop
  | cte (marked : ∃ x ∈ looks, x.MarksCte) (kind : n.kind = .cteView)
      (inferred : n.inferred = false)
  | created (unmarked : ∀ x ∈ looks, ¬ x.MarksCte)
      (mem : n.kind ∈ looks.filterMap createdKind?)
      (highest : ∀ kind ∈ looks.filterMap createdKind?, kind ≤ n.kind)
      (inferred : n.inferred = false)
  | guessed (unmarked : ∀ x ∈ looks, ¬ x.MarksCte)
      (uncreated : looks.filterMap createdKind? = [])
      (kind : n.kind = guess base) (inferred : n.inferred = true) (definition : n.definition = none)

variable {guess}

namespace Accounts

variable {base : String} {looks : List Sighting} {n : Node}

theorem inferred_of_cteView (hguess : guess base ≠ .cteView) (h : Accounts guess base looks n)
    (hkind : n.kind = .cteView) : n.inferred = false := by
  cases h with
  | cte _ _ inferred => exact inferred
  | created _ _ _ inferred => exact inferred
  | guessed _ _ kind => exact absurd (kind.symm.trans hkind) hguess

theorem mark {x : Sighting} (hx : x.MarksCte) {n' : Node} (hkind : n'.kind = .cteView)
    (hinferred : n'.inferred = false) : Accounts guess base (looks ++ [x]) n' :=
  .cte ⟨x, by simp, hx⟩ hkind hinferred

theorem unmarked_append {x : Sighting} (h : ∀ y ∈ looks, ¬ y.MarksCte) (hx : ¬ x.MarksCte) :
    ∀ y ∈ looks ++ [x], ¬ y.MarksCte :=
  List.forall_mem_append.2 ⟨h, List.forall_mem_singleton.2 hx⟩

theorem mention {x : Sighting} (hx : ¬ x.MarksCte) (hcreated : x.createdKind? = none)
    (h : Accounts guess base looks n) {n' : Node} (hkind : n'.kind = n.kind)
    (hinferred : n'.inferred = n.inferred) (hdefinition : n'.definition = n.definition) :
    Accounts guess base (looks ++ [x]) n' := by
  have hkinds : (looks ++ [x]).filterMap createdKind? = looks.filterMap createdKind? := by
    simp [List.filterMap_append, hcreated]
  cases h with
  | cte marked kind inferred =>
    obtain ⟨y, hy, hmarks⟩ := marked
    exact .cte ⟨y, by simp [hy], hmarks⟩ (hkind.trans kind) (hinferred.trans inferred)
  | created unmarked mem highest inferred =>
    refine .created (unmarked_append unmarked hx) ?_ ?_ (hinferred.trans inferred)
    · rwa [hkinds, hkind]
    · rwa [hkinds, hkind]
  | guessed unmarked uncreated kind inferred definition =>
    exact .guessed (unmarked_append unmarked hx) (hkinds.trans uncreated) (hkind.trans kind)
      (hinferred.trans inferred) (hdefinition.trans definition)

theorem create (hguess : guess base ≠ .cteView) (r : Reference) (kind : Kind)
    (definition : String) (hkind : kind ≠ .cteView)
    (hlooks : ∀ x ∈ looks, x.createdKind? ≠ some .cteView) (h : Accounts guess base looks n) :
    Accounts guess base (looks ++ [.created r kind definition])
      (n.update r kind (some definition)) := by
  have hkinds : (looks ++ [Sighting.created r kind definition]).filterMap createdKind? =
      looks.filterMap createdKind? ++ [kind] := by
    rw [List.filterMap_append]
    rfl
  have hunmarked : ¬ MarksCte (.created r kind definition) := id
  cases h with
  | cte marked hcte inferred =>
    -- a common table expression stays one
    obtain ⟨y, hy, hmarks⟩ := marked
    rw [Node.update_of_cteView hcte]
    exact .cte ⟨y, by simp [hy], hmarks⟩ hcte inferred
  | created unmarked mem highest inferred =>
    have hn : n.kind ≠ .cteView := by
      obtain ⟨y, hy, hmem⟩ := List.mem_filterMap.1 mem
      exact fun hcte => hlooks y hy (hmem.trans (congrArg some hcte))
    -- of two definitions the one of the higher kind stays
    by_cases hle : n.kind ≤ kind
    · obtain ⟨hnew, hinferred⟩ := Node.update_defined hn hkind (.inr hle) r definition
      refine .created (unmarked_append unmarked hunmarked) ?_ ?_ hinferred
      · rw [hkinds, hnew]
        exact List.mem_append_right _ List.mem_cons_self
      · rw [hkinds, hnew, List.forall_mem_append, List.forall_mem_singleton]
        exact ⟨fun k hk => Kind.le_trans (highest k hk) hle, Kind.le_refl kind⟩
    · rw [Node.update_outranked hkind inferred hle]
      refine .created (unmarked_append unmarked hunmarked) ?_ ?_ inferred
      · rw [hkinds]
        exact List.mem_append_left _ mem
      · rw [hkinds, List.forall_mem_append, List.forall_mem_singleton]
        exact ⟨highest, Kind.le_of_not_le hle⟩
  | guessed unmarked uncreated hguessed inferred definition' =>
    -- the first definition counts against the guess, whichever of the two is higher
    have hn : n.kind ≠ .cteView := fun hcte => hguess (hguessed.symm.trans hcte)
    obtain ⟨hnew, hinferred⟩ := Node.update_defined hn hkind (.inl inferred) r definition
    refine .created (unmarked_append unmarked hunmarked) ?_ ?_ hinferred
    · rw [hkinds, hnew]
      exact List.mem_append_right _ List.mem_cons_self
    · rw [hkinds, uncreated, hnew, List.nil_append, List.forall_mem_singleton]
      exact Kind.le_refl kind

theorem congr {looks' : List Sighting} (hlooks : ∀ x, x ∈ looks ↔ x ∈ looks')
    (h : Accounts guess base looks n) : Accounts guess base looks' n := by
  have hkinds : ∀ kind, kind ∈ looks.filterMap createdKind? ↔
      kind ∈ looks'.filterMap createdKind? := by
    intro kind
    simp only [List.mem_filterMap, hlooks]
  cases h with
  | cte marked kind inferred =>
    obtain ⟨x, hx, hmarks⟩ := marked
    exact .cte ⟨x, (hlooks x).1 hx, hmarks⟩ kind inferred
  | created unmarked mem highest inferred =>
    exact .created (fun x hx => unmarked x ((hlooks x).2 hx)) ((hkinds n.kind).1 mem)
      (fun kind hkind => highest kind ((hkinds kind).2 hkind)) inferred
  | guessed unmarked uncreated kind inferred definition =>
    refine .guessed (fun x hx => unmarked x ((hlooks x).2 hx)) ?_ kind inferred definition
    refine List.eq_nil_iff_forall_not_mem.2 fun k hk => ?_
    have hmem := (hkinds k).2 hk
    rw [uncreated] at hmem
    cases hmem

theorem unique {n' : Node} (h : Accounts guess base looks n)
    (h' : Accounts guess base looks n') : n.kind = n'.kind ∧ n.inferred = n'.inferred := by
  cases h with
  | cte marked kind inferred =>
    obtain ⟨x, hx, hmarks⟩ := marked
    cases h' with
    | cte _ kind' inferred' => exact ⟨kind.trans kind'.symm, inferred.trans inferred'.symm⟩
    | created unmarked => exact absurd hmarks (unmarked x hx)
    | guessed unmarked => exact absurd hmarks (unmarked x hx)
  | created unmarked mem highest inferred =>
    cases h' with
    | cte marked =>
      obtain ⟨x, hx, hmarks⟩ := marked
      exact absurd hmarks (unmarked x hx)
    | created _ mem' highest' inferred' =>
      exact ⟨Kind.le_antisymm (highest' n.kind mem) (highest n'.kind mem'),
        inferred.trans inferred'.symm⟩
    | guessed _ uncreated =>
      rw [uncreated] at mem
      cases mem
  | guessed unmarked uncreated kind inferred =>
    cases h' with
    | cte marked =>
      obtain ⟨x, hx, hmarks⟩ := marked
      exact absurd hmarks (unmarked x hx)
    | created _ mem =>
      rw [uncreated] at mem
      cases mem
    | guessed _ _ kind' inferred' => exact ⟨kind.trans kind'.symm, inferred.trans inferred'.symm⟩

end Accounts

theorem accounts_step {base : String} (hguess : guess base ≠ .cteView) {looks : List Sighting}
    {n : Node} {x : Sighting} (hx : x.createdKind? ≠ some .cteView)
    (hlooks : ∀ y ∈ looks, y.createdKind? ≠ some .cteView) (h : Accounts guess base looks n) :
    Accounts guess base (looks ++ [x]) (x.node guess (some n)) := by
  have hcte := h.inferred_of_cteView hguess
  cases x with
  | declared c =>
    exact .mark (x := .declared c) trivial (Node.update_cteView_kind _ _ _)
      (Node.update_cteView_inferred hcte _ _)
  | created r kind definition =>
    exact h.create hguess r kind definition (fun hkind => hx (congrArg some hkind)) hlooks
  | read scope r =>
    rw [node]
    split
    · rename_i hscope
      exact .mark (x := .read scope r) (List.contains_iff_mem.1 hscope)
        (Node.update_cteView_kind _ _ _) (Node.update_cteView_inferred hcte _ _)
    · rename_i hscope
      obtain ⟨hkind, hinferred, hdefinition⟩ := n.update_self r
      exact h.mention (x := .read scope r) (fun hmem => hscope (List.contains_iff_mem.2 hmem)) rfl
        hkind hinferred hdefinition

theorem accounts_first {x : Sighting} (hguess : guess x.reference.base ≠ .cteView)
    (hkind : x.createdKind? ≠ some .cteView) :
    Accounts guess x.reference.base [x] (x.node guess none) := by
  cases x with
  | declared c => exact .cte ⟨_, List.mem_cons_self, trivial⟩ rfl rfl
  | created r kind definition =>
    have hne : kind ≠ .cteView := fun h => hkind (congrArg some h)
    have hfirst := Node.first_of_ne hne r (some definition)
    refine .created (by simp [MarksCte]) ?_ ?_ ?_
    all_goals simp [node, Node.registered, hfirst, createdKind?]
    exact Kind.le_refl _
  | read scope r =>
    rw [node]
    split
    · rename_i hscope
      exact .cte ⟨_, List.mem_cons_self, List.contains_iff_mem.1 hscope⟩ rfl rfl
    · rename_i hscope
      have hplain : guess r.base ≠ .cteView := hguess
      have hfirst := Node.first_of_ne hplain r none
      refine .guessed ?_ rfl ?_ ?_ ?_
      · simpa [MarksCte] using hscope
      all_goals simp [Node.mentioned, hfirst, reference]

theorem accounts_foldl {base : String} (hguess : guess base ≠ .cteView)
    (more looks : List Sighting) (n : Node)
    (hkinds : ∀ x ∈ looks ++ more, x.createdKind? ≠ some .cteView)
    (h : Accounts guess base looks n) :
    ∃ n', more.foldl (fun node? x => some (x.node guess node?)) (some n) = some n' ∧
      Accounts guess base (looks ++ more) n' := by
  induction more generalizing looks n with
  | nil => exact ⟨n, rfl, by rwa [List.append_nil]⟩
  | cons x more ih =>
    have hstep := accounts_step hguess (hkinds x (by simp))
      (fun y hy => hkinds y (List.mem_append_left _ hy)) h
    have happend : looks ++ x :: more = looks ++ [x] ++ more := by simp
    rw [happend] at hkinds ⊢
    exact ih (looks ++ [x]) (x.node guess (some n)) hkinds hstep

theorem accounts_run (hguess : ∀ base, guess base ≠ .cteView) (seen : List Sighting)
    (hseen : ∀ x ∈ seen, x.reference.base ≠ "")
    (hkinds : ∀ x ∈ seen, x.createdKind? ≠ some .cteView) {base : String} {n : Node}
    (h : Catalog.find? (seen.foldl (apply guess) []) base = some n) :
    Accounts guess base (sightingsAt base seen) n := by
  obtain ⟨x, more, hlooks, rfl, hrun⟩ := exists_first_look hseen h
  have hkinds' : ∀ y ∈ x :: more, y.createdKind? ≠ some .cteView := by
    intro y hy
    rw [← hlooks] at hy
    exact hkinds y (mem_sightingsAt.1 hy).1
  have hfirst := accounts_first (hguess x.reference.base) (hkinds' x List.mem_cons_self)
  obtain ⟨n', hn', haccounts⟩ := accounts_foldl (hguess _) more [x] _ hkinds' hfirst
  obtain rfl : n' = n := Option.some.inj (hn'.symm.trans hrun)
  rw [hlooks]
  exact haccounts

end Sighting
end SqlLineage
