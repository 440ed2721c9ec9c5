import SqlLineage.Registry

/-! What a reference is known by. Every reference that is read off a name has a base that says
something, so it can be registered. -/

namespace SqlLineage.Reference

theorem key?_eq_some {r : Reference} (h : r.base ≠ "") : r.key? = some r.base := by
  rw [key?, if_neg (by simpa using h)]

theorem ofParts_base_ne {fullName : String} {parts : List (List Char)} {r : Reference}
    (h : ofParts fullName parts = some r) : r.base ≠ "" := by
  unfold ofParts at h
  split at h
  · cases h
  · cases h
  · rename_i base hbase _
    cases h
    intro hempty
    have hnil : base = [] := by simpa using congrArg String.toList hempty
    exact hbase hnil

theorem ofObjectName_base_ne {name : Sql.ObjectName} {r : Reference}
    (h : ofObjectName name = some r) : r.base ≠ "" := ofParts_base_ne h

theorem bare_eq_some_iff (name : String) (r : Reference) :
    bare name = some r ↔
      stripQuotes name.toList ≠ [] ∧
        r = ⟨String.ofList (stripQuotes name.toList), none,
          String.ofList (stripQuotes name.toList)⟩ := by
  unfold bare
  cases stripQuotes name.toList with
  | nil => simp
  | cons c cs => simp [eq_comm]

theorem bare_base_ne {name : String} {r : Reference} (h : bare name = some r) : r.base ≠ "" := by
  obtain ⟨hne, rfl⟩ := (bare_eq_some_iff name r).1 h
  intro hempty
  exact hne (by simpa using congrArg String.toList hempty)

end SqlLineage.Reference
