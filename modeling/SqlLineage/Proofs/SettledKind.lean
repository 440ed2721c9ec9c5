import SqlLineage.Proofs.RegistryTransition

/-! The kind of a name after any calls, read off the calls on that name without a registry. A common
table expression outweighs all else; a guess is forgotten at the first definition; otherwise the
highest kind counts. -/

namespace SqlLineage

namespace Kind

def higher (a b : Kind) : Kind := if a ≤ b then b else a

def highest (kinds : List Kind) : Kind := kinds.foldl higher .unknown

theorem le_higher_left (a b : Kind) : a ≤ a.higher b := by
  unfold higher
  split
  · assumption
  · exact a.le_refl

theorem le_higher_right (a b : Kind) : b ≤ a.higher b := by
  unfold higher
  split
  · exact b.le_refl
  · rename_i h
    exact le_of_not_le h

theorem unknown_higher (a : Kind) : unknown.higher a = a := by
  cases a <;> rfl

theorem higher_right_comm (a b c : Kind) : (a.higher b).higher c = (a.higher c).higher b := by
  cases a <;> cases b <;> cases c <;> rfl

theorem highest_cons (kind : Kind) (kinds : List Kind) :
    highest (kind :: kinds) = kinds.foldl higher kind := by
  rw [highest, List.foldl_cons, unknown_higher]

theorem le_foldl_higher (kind : Kind) (kinds : List Kind) : kind ≤ kinds.foldl higher kind := by
  induction kinds generalizing kind with
  | nil => exact kind.le_refl
  | cons k kinds ih => exact le_trans (kind.le_higher_left k) (ih _)

theorem le_highest {kind : Kind} {kinds : List Kind} (h : kind ∈ kinds) :
    kind ≤ highest kinds := by
  obtain ⟨before, rest, rfl⟩ := List.append_of_mem h
  rw [highest, List.foldl_append, List.foldl_cons]
  exact le_trans (le_higher_right _ kind) (le_foldl_higher _ rest)

theorem foldl_higher_mem (kind : Kind) (kinds : List Kind) :
    kinds.foldl higher kind ∈ kind :: kinds := by
  induction kinds generalizing kind with
  | nil => exact List.mem_singleton_self kind
  | cons k kinds ih =>
    rcases List.mem_cons.1 (ih (kind.higher k)) with heq | hmem
    · rw [List.foldl_cons, heq, higher]
      split <;> simp
    · exact List.mem_cons_of_mem _ (List.mem_cons_of_mem _ hmem)

theorem highest_mem {kinds : List Kind} (h : kinds ≠ []) : highest kinds ∈ kinds := by
  obtain ⟨kind, rest, rfl⟩ := List.exists_cons_of_ne_nil h
  rw [highest_cons]
  exact foldl_higher_mem kind rest

theorem highest_perm {kinds kinds' : List Kind} (h : kinds.Perm kinds') :
    highest kinds = highest kinds' :=
  h.foldl_eq' (fun a _ b _ k => k.higher_right_comm a b) _

theorem highest_of_cteView_mem {kinds : List Kind} (h : .cteView ∈ kinds) :
    highest kinds = .cteView :=
  le_antisymm (le_cteView _) (le_highest h)

end Kind

namespace Node

theorem update_raises {n : Node} {kind : Kind} {definition : Option String}
    (hn : n.kind ≠ .cteView) (hkind : kind ≠ .cteView)
    (h : n.inferred = false ∨ definition.isSome = false) (r : Reference) :
    (n.update r kind definition).kind = n.kind.higher kind ∧
      (n.update r kind definition).inferred = n.inferred := by
  have hguess : (n.inferred && definition.isSome) = false := by
    rcases h with h | h <;> simp [h]
  rw [update, if_neg hn, if_neg hkind, hguess, Bool.false_or, Kind.higher]
  by_cases hle : n.kind ≤ kind
  · rw [if_pos (decide_eq_true hle), if_pos hle, fillSchema_kind, define_kind, fillSchema_inferred]
    refine ⟨rfl, ?_⟩
    cases definition with
    | none => rfl
    | some definition => exact (h.resolve_right (by simp)).symm
  · rw [if_neg (by simpa using hle), if_neg hle]
    exact ⟨rfl, rfl⟩

theorem update_ne_cteView {n : Node} {kind : Kind} (hn : n.kind ≠ .cteView)
    (hkind : kind ≠ .cteView) (r : Reference) (definition : Option String) :
    (n.update r kind definition).kind ≠ .cteView := by
  rw [update, if_neg hn, if_neg hkind]
  split
  · rw [fillSchema_kind, define_kind]
    exact hkind
  · exact hn

end Node

namespace Registry

namespace Call

/-- The kind that a call asserts; a guess is no assertion. -/
def kind? : Call → Option Kind
  | register _ kind _ => some kind
  | registerInferred _ _ => none

def guess? : Call → Option Kind
  | register _ _ _ => none
  | registerInferred _ guess => some guess

def firstKind : Call → Kind
  | register _ kind _ => kind
  | registerInferred _ guess => guess

def kinds (calls : List Call) : List Kind := calls.filterMap kind?

theorem kinds_cons (call : Call) (calls : List Call) :
    kinds (call :: calls) = call.kind?.toList ++ kinds calls := by
  rw [kinds, List.filterMap_cons]
  cases call.kind? <;> rfl

def callsAt (base : String) (calls : List Call) : List Call :=
  calls.filter fun call => call.reference.base == base

theorem callsAt_cons_self (call : Call) (calls : List Call) :
    callsAt call.reference.base (call :: calls) = call :: callsAt call.reference.base calls :=
  List.filter_cons_of_pos (beq_self_eq_true _)

theorem callsAt_cons_of_ne {base : String} {call : Call} (h : base ≠ call.reference.base)
    (calls : List Call) : callsAt base (call :: calls) = callsAt base calls :=
  List.filter_cons_of_neg (by simpa using h.symm)

theorem find?_foldl_callsAt {base : String} (hbase : base ≠ "") (calls : List Call)
    (nodes : Registry) :
    (calls.foldl apply nodes).find? base =
      (callsAt base calls).foldl (fun node? call => some (call.node node?)) (nodes.find? base) := by
  induction calls generalizing nodes with
  | nil => rfl
  | cons call calls ih =>
    rw [List.foldl_cons, ih]
    by_cases h : base = call.reference.base
    · subst h
      rw [callsAt_cons_self, List.foldl_cons, apply_of_base_ne hbase, Catalog.find?_insert,
        if_pos rfl]
    · rw [callsAt_cons_of_ne h, call.find?_apply_of_ne nodes h]

/-! ### The node of one name -/

def nodeAfter (n : Node) (calls : List Call) : Node :=
  calls.foldl (fun n call => call.node (some n)) n

theorem foldl_node_some (n : Node) (calls : List Call) :
    calls.foldl (fun node? call => some (call.node node?)) (some n) = some (nodeAfter n calls) := by
  induction calls generalizing n with
  | nil => rfl
  | cons call calls ih => exact ih (call.node (some n))

theorem nodeAfter_of_cteView {n : Node} (h : n.kind = .cteView) (calls : List Call) :
    nodeAfter n calls = n := by
  induction calls with
  | nil => rfl
  | cons call calls ih =>
    rw [nodeAfter, List.foldl_cons, (call.node_becomes n).cte h]
    exact ih

theorem nodeAfter_of_marked {calls : List Call} (h : .cteView ∈ kinds calls) (n : Node) :
    (nodeAfter n calls).kind = .cteView := by
  obtain ⟨call, hcall, hkind⟩ := List.mem_filterMap.1 h
  obtain ⟨before, rest, rfl⟩ := List.append_of_mem hcall
  have hcte : (call.node (some (nodeAfter n before))).kind = .cteView := by
    cases call with
    | register r kind definition =>
      obtain rfl : kind = .cteView := Option.some.inj hkind
      exact Node.update_cteView_kind _ r definition
    | registerInferred r guess => cases hkind
  have hrest := nodeAfter_of_cteView hcte rest
  rw [nodeAfter, List.foldl_append, List.foldl_cons]
  exact (congrArg Node.kind hrest).trans hcte

theorem node_raises {call : Call} {n : Node} (hn : n.kind ≠ .cteView)
    (hcall : call.kind? ≠ some .cteView) (h : n.inferred = false ∨ call.defines = false) :
    (call.node (some n)).kind = call.kind?.toList.foldl Kind.higher n.kind ∧
      (call.node (some n)).inferred = n.inferred := by
  cases call with
  | register r kind definition =>
    exact Node.update_raises hn (fun hkind => hcall (congrArg some hkind)) h r
  | registerInferred r guess =>
    exact ⟨(n.update_self r).1, (n.update_self r).2.1⟩

theorem node_ne_cteView {call : Call} {n : Node} (hn : n.kind ≠ .cteView)
    (hcall : call.kind? ≠ some .cteView) : (call.node (some n)).kind ≠ .cteView := by
  cases call with
  | register r kind definition =>
    exact Node.update_ne_cteView hn (fun hkind => hcall (congrArg some hkind)) r definition
  | registerInferred r guess => exact fun hcte => hn ((n.update_self r).1 ▸ hcte)

theorem nodeAfter_raises {n : Node} (hn : n.kind ≠ .cteView) {calls : List Call}
    (hcalls : .cteView ∉ kinds calls)
    (h : n.inferred = false ∨ ∀ call ∈ calls, call.defines = false) :
    (nodeAfter n calls).kind = (kinds calls).foldl Kind.higher n.kind ∧
      (nodeAfter n calls).inferred = n.inferred := by
  induction calls generalizing n with
  | nil => exact ⟨rfl, rfl⟩
  | cons call calls ih =>
    rw [kinds_cons, List.mem_append, not_or, Option.mem_toList] at hcalls
    obtain ⟨hcall, hcalls⟩ := hcalls
    obtain ⟨hkind, hinferred⟩ := node_raises hn hcall
      (h.imp_right fun hdefines => hdefines call List.mem_cons_self)
    obtain ⟨hkinds, hinferred'⟩ := ih (node_ne_cteView hn hcall) hcalls
      (h.imp hinferred.trans fun hdefines c hc => hdefines c (List.mem_cons_of_mem call hc))
    refine ⟨?_, hinferred'.trans hinferred⟩
    rw [kinds_cons, List.foldl_append, ← hkind]
    exact hkinds

theorem nodeAfter_defined {n : Node} (hn : n.kind ≠ .cteView) (hinferred : n.inferred = true)
    {call : Call} (hdefines : call.defines = true) {calls : List Call}
    (hcalls : .cteView ∉ kinds (call :: calls)) :
    (nodeAfter n (call :: calls)).kind = .highest (kinds (call :: calls)) := by
  cases call with
  | registerInferred r guess => cases hdefines
  | register r kind definition =>
    obtain ⟨d, rfl⟩ := Option.isSome_iff_exists.1 hdefines
    rw [kinds_cons, List.mem_append, not_or, Option.mem_toList] at hcalls
    obtain ⟨hkind, hcalls⟩ := hcalls
    obtain ⟨hnode, hsettled⟩ := Node.update_defined hn
      (fun hcte => hkind (congrArg some hcte)) (.inl hinferred) r d
    have hne : (n.update r kind (some d)).kind ≠ .cteView := by
      intro hcte
      exact hkind (by rw [← hcte, hnode]; rfl)
    have hraises := (nodeAfter_raises hne hcalls (.inl hsettled)).1
    rw [hnode, ← Kind.highest_cons] at hraises
    exact hraises

/-- The kind that the calls on one name come to, of which `first` is the first. -/
def settledKind (first : Call) (rest : List Call) : Kind :=
  if first.firstKind = .cteView ∨ .cteView ∈ kinds rest then .cteView
  else if first.guess?.isSome ∧ rest.any defines then
    .highest (kinds (rest.dropWhile fun call => !call.defines))
  else .highest (first.firstKind :: kinds rest)

theorem node_none (call : Call) :
    (call.node none).kind = call.firstKind ∧ (call.node none).inferred = call.guess?.isSome := by
  cases call with
  | register r kind definition =>
    refine ⟨?_, Node.first_inferred r kind definition⟩
    change (Node.first r kind definition).kind = kind
    unfold Node.first
    split <;> rfl
  | registerInferred r guess =>
    refine ⟨?_, rfl⟩
    change (Node.first r guess none).kind = guess
    unfold Node.first
    split <;> rfl

theorem nodeAfter_redefined {n : Node} (hn : n.kind ≠ .cteView) (hinferred : n.inferred = true)
    {calls : List Call} (hcalls : .cteView ∉ kinds calls)
    (hdefines : calls.any defines = true) :
    (nodeAfter n calls).kind =
      .highest (kinds (calls.dropWhile fun call => !call.defines)) := by
  -- the node stays a guess up to the definition, which forgets what it was raised to
  induction calls generalizing n with
  | nil => cases hdefines
  | cons call calls ih =>
    cases hcall : call.defines with
    | true =>
      rw [List.dropWhile_cons_of_neg (by simp [hcall])]
      exact nodeAfter_defined hn hinferred hcall hcalls
    | false =>
      rw [List.dropWhile_cons_of_pos (by simp [hcall])]
      rw [kinds_cons, List.mem_append, not_or, Option.mem_toList] at hcalls
      rw [List.any_cons, hcall, Bool.false_or] at hdefines
      have hnode := (node_raises hn hcalls.1 (.inr hcall)).2
      exact ih (node_ne_cteView hn hcalls.1) (hnode.trans hinferred) hcalls.2 hdefines

theorem nodeAfter_kind (first : Call) (rest : List Call) :
    (nodeAfter (first.node none) rest).kind = settledKind first rest := by
  obtain ⟨hkind, hinferred⟩ := first.node_none
  unfold settledKind
  split
  · rename_i hcte
    rcases hcte with hfirst | hrest
    · rw [nodeAfter_of_cteView (hkind.trans hfirst), hkind, hfirst]
    · exact nodeAfter_of_marked hrest _
  · rename_i hplain
    rw [not_or, ← hkind] at hplain
    split
    · rename_i hguess
      exact nodeAfter_redefined hplain.1 (hinferred.trans hguess.1) hplain.2 hguess.2
    · rename_i hsettled
      rw [Kind.highest_cons, ← hkind]
      refine (nodeAfter_raises hplain.1 hplain.2 ?_).1
      rw [hinferred]
      by_cases hguess : first.guess?.isSome
      · refine .inr fun call hcall => ?_
        by_contra hdefines
        exact hsettled ⟨hguess, List.any_eq_true.2 ⟨call, hcall, by simpa using hdefines⟩⟩
      · exact .inl (by simpa using hguess)

/-- The kind of a name, read off the calls on it. -/
def settledKind? : List Call → Option Kind
  | [] => none
  | first :: rest => some (settledKind first rest)

theorem settledKind?_of_asserted {calls : List Call} (hne : calls ≠ [])
    (h : ∀ call ∈ calls, call.kind?.isSome) :
    settledKind? calls = some (.highest (kinds calls)) := by
  obtain ⟨first, rest, rfl⟩ := List.exists_cons_of_ne_nil hne
  cases first with
  | registerInferred r guess => cases h _ List.mem_cons_self
  | register r kind definition =>
    have hkinds : kinds (register r kind definition :: rest) = kind :: kinds rest := rfl
    rw [settledKind?, hkinds, settledKind]
    split
    · rename_i hcte
      rw [Kind.highest_of_cteView_mem]
      exact List.mem_cons.2 (hcte.imp_left Eq.symm)
    · rw [if_neg (by simp [guess?])]
      rfl

theorem callsAt_perm (base : String) {calls calls' : List Call} (h : calls.Perm calls') :
    (callsAt base calls).Perm (callsAt base calls') := h.filter _

theorem mem_callsAt {base : String} {calls : List Call} {call : Call} :
    call ∈ callsAt base calls ↔ call ∈ calls ∧ call.reference.base = base := by
  rw [callsAt, List.mem_filter, beq_iff_eq]

end Call

open Call

theorem kindOf?_after_eq {base : String} (hbase : base ≠ "") (calls : List Call) :
    (after calls).kindOf? base = settledKind? (callsAt base calls) := by
  rw [kindOf?, after, find?_foldl_callsAt hbase]
  cases hcalls : callsAt base calls with
  | nil => rfl
  | cons first rest =>
    rw [List.foldl_cons]
    have hrest := foldl_node_some (first.node none) rest
    exact (congrArg (Option.map Node.kind) hrest).trans (congrArg some (nodeAfter_kind first rest))

/-- The kind of a name after any calls is the one that the calls on the name settle. If none of
these is a guess, it is the highest of their kinds, in whatever order the calls are made. -/
theorem kindOf?_after {base : String} (hbase : base ≠ "") (calls : List Call) :
    (after calls).kindOf? base = settledKind? (callsAt base calls) ∧
    ((∃ call ∈ calls, call.reference.base = base) →
      (∀ call ∈ calls, call.reference.base = base → call.kind?.isSome) →
      ∃ kind, kind ∈ kinds (callsAt base calls) ∧ (∀ k ∈ kinds (callsAt base calls), k ≤ kind) ∧
        ∀ calls', calls.Perm calls' → (after calls').kindOf? base = some kind) := by
  refine ⟨kindOf?_after_eq hbase calls, ?_⟩
  rintro ⟨call, hcall, hcallbase⟩ hasserted
  have hmem : call ∈ callsAt base calls := mem_callsAt.2 ⟨hcall, hcallbase⟩
  have hasserted' : ∀ c ∈ callsAt base calls, c.kind?.isSome := by
    intro c hc
    exact hasserted c (mem_callsAt.1 hc).1 (mem_callsAt.1 hc).2
  have hkinds : kinds (callsAt base calls) ≠ [] := by
    obtain ⟨kind, hkind⟩ := Option.isSome_iff_exists.1 (hasserted' call hmem)
    exact List.ne_nil_of_mem (List.mem_filterMap.2 ⟨call, hmem, hkind⟩)
  refine ⟨.highest (kinds (callsAt base calls)), Kind.highest_mem hkinds,
    fun k hk => Kind.le_highest hk, ?_⟩
  intro calls' hperm
  have hat := callsAt_perm base hperm
  rw [kindOf?_after_eq hbase, settledKind?_of_asserted (List.ne_nil_of_mem (hat.mem_iff.1 hmem))
    fun c hc => hasserted' c (hat.mem_iff.2 hc)]
  exact congrArg some (Kind.highest_perm (hat.filterMap kind?).symm)

/-- A guess is raised, then replaced by a definition of a lower kind, which a mention raises; the
calls on another name count for nothing. -/
theorem kindOf?_after_redefined :
    "v" ≠ "" ∧
    (after [.registerInferred ⟨"v", none, "v"⟩ .table, .register ⟨"w", none, "w"⟩ .cteView none,
      .register ⟨"v", none, "v"⟩ .view none, .register ⟨"v", none, "v"⟩ .unknown (some ""),
      .registerInferred ⟨"v", none, "v"⟩ .cteView,
      .register ⟨"s.v", some "s", "v"⟩ .table none]).kindOf? "v" = some .table :=
  ⟨by decide, (kindOf?_after (by decide) _).1.trans (by decide +kernel)⟩

end Registry
end SqlLineage
