import SqlLineage.Proofs.Segment

/-! The parts of a text between separators: cutting at a separator undoes joining with it. -/

namespace SqlLineage.Text

variable {separator : Char}

theorem splitAtChar_ne_nil (separator : Char) (cs : List Char) : splitAtChar separator cs ≠ [] := by
  cases cs with
  | nil => exact List.cons_ne_nil _ _
  | cons c cs =>
    rw [splitAtChar]
    split
    · exact List.cons_ne_nil _ _
    · exact consFirst_ne_nil c _

theorem consFirst_append (c : Char) {parts : List (List Char)} (h : parts ≠ [])
    (more : List (List Char)) : consFirst c (parts ++ more) = consFirst c parts ++ more := by
  cases parts with
  | nil => exact absurd rfl h
  | cons part parts => rfl

theorem splitAtChar_append (separator : Char) (cs rest : List Char) :
    splitAtChar separator (cs ++ separator :: rest) =
      splitAtChar separator cs ++ splitAtChar separator rest := by
  induction cs with
  | nil => simp [splitAtChar]
  | cons c cs ih =>
    rw [List.cons_append, splitAtChar, splitAtChar, ih]
    split
    · rfl
    · exact consFirst_append c (splitAtChar_ne_nil separator cs) _

theorem splitAtChar_of_not_mem {cs : List Char} (h : separator ∉ cs) :
    splitAtChar separator cs = [cs] := by
  induction cs with
  | nil => rfl
  | cons c cs ih =>
    rw [List.mem_cons, not_or] at h
    rw [splitAtChar, if_neg (Ne.symm h.1), ih h.2]
    rfl

theorem mem_consFirst {c : Char} {parts : List (List Char)} {part : List Char}
    (h : part ∈ consFirst c parts) :
    part ∈ parts ∨ part = [c] ∨ ∃ first ∈ parts, part = c :: first := by
  cases parts with
  | nil => exact .inr (.inl (List.mem_singleton.1 h))
  | cons first parts =>
    rcases List.mem_cons.1 h with rfl | hmem
    · exact .inr (.inr ⟨first, List.mem_cons_self, rfl⟩)
    · exact .inl (List.mem_cons_of_mem first hmem)

theorem not_mem_of_mem_splitAtChar {cs part : List Char} (h : part ∈ splitAtChar separator cs) :
    separator ∉ part := by
  induction cs generalizing part with
  | nil =>
    obtain rfl := List.mem_singleton.1 h
    exact List.not_mem_nil
  | cons c cs ih =>
    rw [splitAtChar] at h
    split at h
    · rcases List.mem_cons.1 h with rfl | hmem
      · exact List.not_mem_nil
      · exact ih hmem
    · rename_i hc
      rcases mem_consFirst h with hmem | rfl | ⟨first, hfirst, rfl⟩
      · exact ih hmem
      · exact fun hmem => hc (List.mem_singleton.1 hmem).symm
      · exact fun hmem => (List.mem_cons.1 hmem).elim (fun heq => hc heq.symm) (ih hfirst)

theorem splitAtChar_intercalate {parts : List (List Char)} (hne : parts ≠ [])
    (h : ∀ part ∈ parts, separator ∉ part) :
    splitAtChar separator ([separator].intercalate parts) = parts := by
  induction parts with
  | nil => exact absurd rfl hne
  | cons part parts ih =>
    have hpart := splitAtChar_of_not_mem (h part List.mem_cons_self)
    cases parts with
    | nil => rw [List.intercalate_singleton, hpart]
    | cons next parts =>
      rw [List.intercalate_cons_cons, List.append_assoc, List.singleton_append,
        splitAtChar_append, hpart, ih (List.cons_ne_nil _ _) fun p hp =>
          h p (List.mem_cons_of_mem part hp)]
      rfl

end SqlLineage.Text
