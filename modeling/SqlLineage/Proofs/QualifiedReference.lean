import SqlLineage.Proofs.LexicalScope

/-! When a reference with a schema is found. The names of common table expressions do not matter to
a name of several identifiers, but they do to a path in one pair of backticks. Apart from that only
an earlier reference of the same text keeps one from being found. -/

namespace SqlLineage

theorem Reference.schema_of_ofParts {fullName : String} {parts : List (List Char)} {r : Reference}
    (h : ofParts fullName parts = some r) : r.schema = schemaOf parts := by
  unfold ofParts at h
  split at h
  · cases h
  · cases h
  · cases h
    rfl

theorem Reference.quote_of_schema {i : Sql.Ident} {r : Reference} {s : String}
    (h : ofObjectName [i] = some r) (hs : r.schema = some s) : i.quote = some '\x60' := by
  refine Classical.byContradiction fun hquote => ?_
  have hparts : nameParts [i] = [i.value.toList] := by
    unfold nameParts
    split
    · rename_i value heq
      obtain ⟨rfl, -⟩ := List.cons.inj heq
      exact absurd rfl hquote
    · rfl
  have hschema := schema_of_ofParts h
  rw [hparts, hs] at hschema
  cases hschema

namespace Lineage

variable {scope : CteScope} {o : Occurrence} {r : Reference} {s : String}

theorem find?_filter_fullName (rs : List Reference) {name other : String} (h : name ≠ other) :
    (rs.filter fun t => (t.fullName == other) = false).find? (fun t => t.fullName == name) =
      rs.find? fun t => t.fullName == name := by
  rw [List.find?_filter]
  congr 1
  funext t
  by_cases ht : t.fullName = name <;> simp [ht, h]

theorem mem_firstByName_iff (rs : List Reference) :
    r ∈ firstByName rs ↔ rs.find? (fun t => t.fullName == r.fullName) = some r := by
  induction hn : rs.length using Nat.strongRecOn generalizing rs with
  | ind n ih =>
    cases rs with
    | nil => simp [firstByName]
    | cons first rs =>
      have hlength : (rs.filter fun t => (t.fullName == first.fullName) = false).length < n := by
        have hle := List.length_filter_le (fun t => (t.fullName == first.fullName) = false) rs
        rw [List.length_cons] at hn
        omega
      have hrest := ih _ hlength _ rfl
      have hcons : r ∈ firstByName (first :: rs) ↔ r = first ∨
          r ∈ firstByName (rs.filter fun t => (t.fullName == first.fullName) = false) := by
        rw [firstByName, List.eraseDupsBy_cons, List.mem_cons]
        rfl
      rw [hcons, hrest]
      by_cases hname : first.fullName = r.fullName
      · -- the others of this name are gone from the rest
        have hnone : (rs.filter fun t => (t.fullName == first.fullName) = false).find?
            (fun t => t.fullName == r.fullName) = none := by
          refine List.find?_eq_none.2 fun t ht => ?_
          simpa [hname] using (List.mem_filter.1 ht).2
        rw [hnone, List.find?_cons_of_pos (by simpa using hname)]
        simp [eq_comm]
      · have hne : r ≠ first := by
          rintro rfl
          exact hname rfl
        rw [find?_filter_fullName rs (Ne.symm hname), List.find?_cons_of_neg (by simpa using hname)]
        simp [hne]

namespace Occurrence

/-- The name is a path in one pair of backticks, and some common table expression that is in sight
or around the table has the name of its last part. -/
def TakenForCte (scope : CteScope) (o : Occurrence) (base : String) : Prop :=
  ∃ path, o.name = [⟨path, some '\x60'⟩] ∧ (o.Hidden base ∨ base ∈ scope)

theorem takenForCte_iff (h : Reference.ofObjectName o.name = some r) (hs : r.schema = some s) :
    o.TakenForCte scope r.base ↔ o.name.length = 1 ∧ (o.Hidden r.base ∨ r.base ∈ scope) := by
  constructor
  · rintro ⟨path, hname, hcte⟩
    exact ⟨by rw [hname]; rfl, hcte⟩
  · rintro ⟨hlength, hcte⟩
    obtain ⟨⟨path, quote⟩, hname⟩ := List.length_eq_one_iff.1 hlength
    rw [hname] at h
    obtain rfl : quote = some '\x60' := Reference.quote_of_schema h hs
    exact ⟨path, hname, hcte⟩

theorem resolve_eq_some_iff (hs : r.schema = some s) :
    o.resolve scope = some r ↔
      o.called = false ∧ Reference.ofObjectName o.name = some r ∧
        ¬ o.TakenForCte scope r.base := by
  unfold resolve
  cases o.called with
  | true => simp
  | false =>
    cases hname : Reference.ofObjectName o.name with
    | none => simp
    | some t =>
      constructor
      · intro h
        rw [if_neg Bool.false_ne_true] at h
        dsimp only at h
        split at h
        · cases h
        · rename_i hhidden
          split at h
          · -- what stands for a common table expression has no schema
            obtain ⟨-, rfl⟩ := (Reference.bare_eq_some_iff t.base r).1 h
            cases hs
          · rename_i hscope
            obtain rfl := Option.some.inj h
            rw [takenForCte_iff hname hs]
            refine ⟨rfl, rfl, ?_⟩
            rintro ⟨hlength, hcte | hcte⟩
            · exact hhidden ⟨hlength, hcte⟩
            · exact hscope ⟨hlength, hcte⟩
      · rintro ⟨-, ht, hfree⟩
        obtain rfl := Option.some.inj ht
        rw [takenForCte_iff hname hs] at hfree
        rw [if_neg Bool.false_ne_true]
        dsimp only
        rw [if_neg fun h => hfree ⟨h.1, .inl h.2⟩, if_neg fun h => hfree ⟨h.1, .inr h.2⟩]

end Occurrence

/-- A reference with a schema is found just if some table refers to it that is not taken for a
common table expression, and no reference of the same text comes before that table. -/
theorem mem_dependencies_iff_of_schema (scope : CteScope) (fragment : List Sql.Mention)
    (hs : r.schema = some s) :
    r ∈ dependencies scope fragment ↔
      ∃ before o after, occurrences fragment = before ++ o :: after ∧
        o.called = false ∧ Reference.ofObjectName o.name = some r ∧
        ¬ o.TakenForCte scope r.base ∧
        ∀ o' ∈ before, ∀ r', o'.resolve scope = some r' → r'.fullName ≠ r.fullName := by
  rw [dependencies_eq, mem_firstByName_iff, referencesIn, List.find?_filterMap,
    Option.bind_eq_some_iff]
  have hother : ∀ o' : Occurrence,
      ((o'.resolve scope).any fun t => t.fullName == r.fullName) = false ↔
        ∀ r', o'.resolve scope = some r' → r'.fullName ≠ r.fullName := by
    intro o'
    cases o'.resolve scope <;> simp
  constructor
  · rintro ⟨o, hfind, hresolve⟩
    obtain ⟨-, before, after, hsplit, hbefore⟩ := List.find?_eq_some_iff_append.1 hfind
    obtain ⟨hcalled, hname, hfree⟩ := (Occurrence.resolve_eq_some_iff hs).1 hresolve
    refine ⟨before, o, after, hsplit, hcalled, hname, hfree, fun o' ho' => ?_⟩
    exact (hother o').1 (by simpa using hbefore o' ho')
  · rintro ⟨before, o, after, hsplit, hcalled, hname, hfree, hbefore⟩
    have hresolve := (Occurrence.resolve_eq_some_iff hs).2 ⟨hcalled, hname, hfree⟩
    refine ⟨o, List.find?_eq_some_iff_append.2 ⟨by simp [hresolve], before, after, hsplit, ?_⟩,
      hresolve⟩
    intro o' ho'
    rw [(hother o').2 (hbefore o' ho')]
    rfl

/-- Beside a common table expression `orders` a table of two identifiers is found. The path before
it, which has another text, is taken for the expression. -/
theorem mem_dependencies_beside_cte :
    (⟨"ds.orders", some "ds", "orders"⟩ : Reference).schema = some "ds" ∧
      ⟨"ds.orders", some "ds", "orders"⟩ ∈ dependencies ["orders"] [.query [.bare "orders"]
        [.table [⟨"ds.orders", some '\x60'⟩] false,
          .table [.bare "ds", .bare "orders"] false]] := by
  refine ⟨rfl, (mem_dependencies_iff_of_schema _ _ rfl).2
    ⟨[⟨[⟨"ds.orders", some '\x60'⟩], false, [["orders"]]⟩],
      ⟨[.bare "ds", .bare "orders"], false, [["orders"]]⟩, [], rfl, rfl, by decide +kernel, ?_, ?_⟩⟩
  · rintro ⟨path, hname, -⟩
    cases hname
  · intro o' ho' r' hr'
    obtain rfl := List.mem_singleton.1 ho'
    have hhidden : Occurrence.resolve ["orders"]
        ⟨[⟨"ds.orders", some '\x60'⟩], false, [["orders"]]⟩ = none := by decide +kernel
    rw [hhidden] at hr'
    cases hr'

/-- A path in backticks is lost when a common table expression has the name of its last part. -/
theorem path_taken_for_cte :
    ¬ ∀ (scope : CteScope) (fragment : List Sql.Mention) (o : Occurrence) (r : Reference)
        (s : String), o ∈ occurrences fragment → o.called = false →
      Reference.ofObjectName o.name = some r → r.schema = some s →
      r ∈ dependencies scope fragment := by
  intro h
  have hmem := h ["orders"] [.query [] [.table [⟨"ds.orders", some '\x60'⟩] false]]
    ⟨[⟨"ds.orders", some '\x60'⟩], false, [[]]⟩ ⟨"`ds.orders`", some "ds", "orders"⟩ "ds"
    List.mem_cons_self rfl (by decide +kernel) rfl
  have hfound : dependencies ["orders"]
      [.query [] [.table [⟨"ds.orders", some '\x60'⟩] false]] = [⟨"orders", none, "orders"⟩] := by
    decide +kernel
  rw [hfound] at hmem
  simp at hmem

-- the text of a common table expression can be that of a table with a schema, which is then lost
-- although its name has two identifiers
example : dependencies ["a.b"]
    [.table [⟨"a.b", some '"'⟩] false, .table [.bare "a", .bare "b"] false] =
      [⟨"a.b", none, "a.b"⟩] := by decide +kernel

end Lineage
end SqlLineage
