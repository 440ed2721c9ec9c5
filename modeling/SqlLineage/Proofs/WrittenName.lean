import SqlLineage.Proofs.SplitComposition
import SqlLineage.Proofs.TextParts
import SqlLineage.Reference

/-! A name that is read again from its text. Cutting the text at the dots outside quotes and taking
the quotes off gives the values of the identifiers back, as long as no value can be mistaken for
quotes, blanks or dots of the text. -/

namespace SqlLineage

namespace Text

variable {p : Char → Bool} {cs : List Char}

def Trimmed (p : Char → Bool) (cs : List Char) : Prop :=
  cs.head?.any p = false ∧ cs.getLast?.any p = false

instance (p : Char → Bool) (cs : List Char) : Decidable (Trimmed p cs) :=
  inferInstanceAs (Decidable (cs.head?.any p = false ∧ cs.getLast?.any p = false))

theorem trimmed_of_any_eq_false (h : cs.any p = false) : Trimmed p cs := by
  have hnot : ∀ c ∈ cs, p c = false := fun c hc => Bool.eq_false_iff.2 (List.any_eq_false.1 h c hc)
  rw [Trimmed, Option.any_eq_false, Option.any_eq_false]
  exact ⟨fun c hc => hnot c (List.mem_of_head? hc), fun c hc => hnot c (List.mem_of_getLast? hc)⟩

theorem dropEndWhile_of_getLast? (h : cs.getLast?.any p = false) : dropEndWhile p cs = cs := by
  cases hlast : cs.getLast? with
  | none =>
    rw [List.getLast?_eq_none_iff.1 hlast]
    rfl
  | some c =>
    rw [hlast] at h
    obtain ⟨front, rfl⟩ := List.getLast?_eq_some_iff.1 hlast
    exact dropEndWhile_append_of_neg h front

theorem Trimmed.trimWhile_eq (h : Trimmed p cs) : trimWhile p cs = cs := by
  have hstart : cs.dropWhile p = cs := by
    cases cs with
    | nil => rfl
    | cons c cs => exact List.dropWhile_cons_of_neg (Bool.eq_false_iff.1 h.1)
  rw [trimWhile, hstart, dropEndWhile_of_getLast? h.2]

theorem trimWhile_between {a b : Char} (ha : p a = true) (hb : p b = true)
    (h : cs.any p = false) : trimWhile p (a :: (cs ++ [b])) = cs := by
  have hcs := trimmed_of_any_eq_false h
  rw [trimWhile, List.dropWhile_cons_of_pos ha]
  cases cs with
  | nil => rw [List.nil_append, List.dropWhile_cons_of_pos hb]; rfl
  | cons c cs =>
    have hstart : List.dropWhile p (c :: cs ++ [b]) = c :: cs ++ [b] :=
      List.dropWhile_cons_of_neg (Bool.eq_false_iff.1 hcs.1)
    rw [hstart, dropEndWhile_append_of_pos hb]
    exact dropEndWhile_of_getLast? hcs.2

theorem Trimmed.append {cs' : List Char} {separator : Char} (hseparator : p separator = false)
    (h : Trimmed p cs) (h' : Trimmed p cs') : Trimmed p (cs ++ separator :: cs') := by
  constructor
  · cases cs with
    | nil => exact hseparator
    | cons c cs => exact h.1
  · cases cs' with
    | nil =>
      rw [List.getLast?_concat]
      exact hseparator
    | cons c cs' =>
      have hlast : (cs ++ separator :: c :: cs').getLast? = (c :: cs').getLast? := by
        rw [List.getLast?_append, List.getLast?_cons_cons, List.getLast?_cons, Option.some_or]
      rw [hlast]
      exact h'.2

theorem trimmed_intercalate {parts : List (List Char)} {separator : Char}
    (hseparator : p separator = false) (h : ∀ part ∈ parts, Trimmed p part) :
    Trimmed p ([separator].intercalate parts) := by
  induction parts with
  | nil => exact ⟨rfl, rfl⟩
  | cons part parts ih =>
    have hpart := h part List.mem_cons_self
    cases parts with
    | nil => rwa [List.intercalate_singleton]
    | cons next parts =>
      rw [List.intercalate_cons_cons, List.append_assoc, List.singleton_append]
      exact hpart.append hseparator (ih fun q hq => h q (List.mem_cons_of_mem part hq))

end Text

open Text

/-! ### Cutting a text at the dots outside quotes -/

theorem closing?_of_not_mark {c : Char} (h : isQuoteMark c = false) : closing? c = none := by
  simp only [isQuoteMark, Bool.or_eq_false_iff, beq_eq_false_iff_ne] at h
  obtain ⟨⟨⟨⟨hdouble, hback⟩, hsingle⟩, hopen⟩, -⟩ := h
  simp [closing?, hdouble, hback, hsingle, hopen]

theorem isBlank_of_mark {c : Char} (h : isQuoteMark c = true) : isBlank c = false := by
  simp only [isQuoteMark, Bool.or_eq_true, beq_iff_eq] at h
  rcases h with (((rfl | rfl) | rfl) | rfl) | rfl <;> rfl

theorem splitQualified_ne_nil (quote : Option Char) (cs : List Char) :
    splitQualified quote cs ≠ [] := by
  cases cs with
  | nil => exact List.cons_ne_nil _ _
  | cons c cs =>
    cases quote with
    | some q => exact consFirst_ne_nil c _
    | none =>
      rw [splitQualified]
      split
      · exact List.cons_ne_nil _ _
      · exact consFirst_ne_nil c _

theorem splitQualified_outside {cs : List Char} (hdot : '.' ∉ cs)
    (hmarks : cs.any isQuoteMark = false) (rest : List Char) :
    splitQualified none (cs ++ rest) = prependFirst cs (splitQualified none rest) := by
  induction cs with
  | nil => exact (prependFirst_nil (splitQualified_ne_nil none rest)).symm
  | cons c cs ih =>
    rw [List.mem_cons, not_or] at hdot
    rw [List.any_cons, Bool.or_eq_false_iff] at hmarks
    rw [List.cons_append, splitQualified, if_neg (Ne.symm hdot.1), closing?_of_not_mark hmarks.1,
      ih hdot.2 hmarks.2, consFirst_prependFirst]

theorem splitQualified_inside {close : Char} {cs : List Char} (h : close ∉ cs) (rest : List Char) :
    splitQualified (some close) (cs ++ close :: rest) =
      prependFirst (cs ++ [close]) (splitQualified none rest) := by
  induction cs with
  | nil =>
    rw [List.nil_append, splitQualified, if_pos rfl]
    cases splitQualified none rest <;> rfl
  | cons c cs ih =>
    rw [List.mem_cons, not_or] at h
    rw [List.cons_append, splitQualified, if_neg (Ne.symm h.1), ih h.2, consFirst_prependFirst]
    rfl

/-! ### Identifiers and their texts -/

namespace Sql

theorem doubleQuotesFrom_of_not_mem {quote : Char} {cs : List Char} (h : quote ∉ cs)
    (previous : Char) : doubleQuotesFrom quote previous cs = cs := by
  induction cs generalizing previous with
  | nil => rfl
  | cons c cs ih =>
    rw [List.mem_cons, not_or] at h
    unfold doubleQuotesFrom
    rw [if_neg (Ne.symm h.1), ih h.2]

namespace Ident

variable {i : Ident}

/-- The text of the identifier can be told from quotes, dots and blanks around it. -/
structure Plain (i : Ident) : Prop where
  quote : i.quote ∈ [none, some '"', some '\x60', some '\'', some '[']
  value : i.value.toList.any isQuoteMark = false
  ends : Trimmed isBlank i.value.toList
  dot : i.quote = none → '.' ∉ i.value.toList

instance (i : Ident) : Decidable i.Plain :=
  decidable_of_iff
    (i.quote ∈ [none, some '"', some '\x60', some '\'', some '['] ∧
      i.value.toList.any isQuoteMark = false ∧ Trimmed isBlank i.value.toList ∧
      (i.quote = none → '.' ∉ i.value.toList))
    ⟨fun h => ⟨h.1, h.2.1, h.2.2.1, h.2.2.2⟩, fun h => ⟨h.quote, h.value, h.ends, h.dot⟩⟩

namespace Plain

theorem not_mem_value (h : i.Plain) {mark : Char} (hmark : isQuoteMark mark = true) :
    mark ∉ i.value.toList := by
  intro hmem
  exact List.any_eq_false.1 h.value mark hmem hmark

theorem render_cases (h : i.Plain) :
    (i.quote = none ∧ i.render.toList = i.value.toList) ∨
      ∃ q close, closing? q = some close ∧ isQuoteMark q = true ∧ isQuoteMark close = true ∧
        i.render.toList = q :: (i.value.toList ++ [close]) := by
  obtain ⟨value, quote⟩ := i
  have hquoted : ∀ q, isQuoteMark q = true →
      (quoted q value).toList = q :: (value.toList ++ [q]) := by
    intro q hq
    have hvalue := doubleQuotesFrom_of_not_mem (h.not_mem_value hq) (Char.ofNat 0)
    simp only [quoted, doubleQuotes, String.toList_append, String.toList_ofList, hvalue]
    simp
  have hquote := h.quote
  simp only [List.mem_cons, List.not_mem_nil, or_false] at hquote
  rcases hquote with rfl | rfl | rfl | rfl | rfl
  · exact .inl ⟨rfl, rfl⟩
  · exact .inr ⟨'"', '"', rfl, rfl, rfl, hquoted _ rfl⟩
  · exact .inr ⟨'\x60', '\x60', rfl, rfl, rfl, hquoted _ rfl⟩
  · exact .inr ⟨'\'', '\'', rfl, rfl, rfl, hquoted _ rfl⟩
  · exact .inr ⟨'[', ']', rfl, rfl, rfl, by simp [render]⟩

theorem splitQualified_append (h : i.Plain) (rest : List Char) :
    splitQualified none (i.render.toList ++ rest) =
      prependFirst i.render.toList (splitQualified none rest) := by
  rcases h.render_cases with ⟨hbare, htext⟩ | ⟨q, close, hclosing, hq, hclose, htext⟩
  · rw [htext]
    exact splitQualified_outside (h.dot hbare) h.value rest
  · have hdot : q ≠ '.' := by
      rintro rfl
      cases hq
    rw [htext, List.cons_append, List.append_assoc, List.singleton_append, splitQualified,
      if_neg hdot, hclosing, splitQualified_inside (h.not_mem_value hclose),
      consFirst_prependFirst]

theorem stripQuotes_value (h : i.Plain) : stripQuotes i.value.toList = i.value.toList := by
  rw [stripQuotes, trimChars, h.ends.trimWhile_eq, (trimmed_of_any_eq_false h.value).trimWhile_eq]

theorem trimmed_render (h : i.Plain) : Trimmed isBlank i.render.toList := by
  rcases h.render_cases with ⟨-, htext⟩ | ⟨q, close, -, hq, hclose, htext⟩
  · rw [htext]
    exact h.ends
  · rw [htext, ← List.cons_append]
    refine ⟨isBlank_of_mark hq, ?_⟩
    rw [List.getLast?_concat]
    exact isBlank_of_mark hclose

theorem stripQuotes_render (h : i.Plain) : stripQuotes i.render.toList = i.value.toList := by
  rcases h.render_cases with ⟨-, htext⟩ | ⟨q, close, -, hq, hclose, htext⟩
  · rw [htext]
    exact h.stripQuotes_value
  · rw [stripQuotes, trimChars, h.trimmed_render.trimWhile_eq, htext]
    exact trimWhile_between hq hclose h.value

end Plain
end Ident

theorem ObjectName.toList_render (name : ObjectName) :
    (ObjectName.render name).toList = ['.'].intercalate (name.map fun i => i.render.toList) := by
  rw [ObjectName.render, String.toList_intercalate, List.map_map]
  rfl

theorem ObjectName.splitQualified_render {name : ObjectName} (hne : name ≠ [])
    (h : ∀ i ∈ name, i.Plain) :
    splitQualified none (ObjectName.render name).toList = name.map fun i => i.render.toList := by
  rw [ObjectName.toList_render]
  induction name with
  | nil => exact absurd rfl hne
  | cons i name ih =>
    have hi := h i List.mem_cons_self
    cases name with
    | nil =>
      have hsplit := hi.splitQualified_append []
      rw [List.append_nil] at hsplit
      rw [List.map_singleton, List.intercalate_singleton, hsplit, splitQualified, prependFirst,
        List.append_nil]
    | cons j name =>
      have hrest := ih (List.cons_ne_nil _ _) fun k hk => h k (List.mem_cons_of_mem i hk)
      rw [List.map_cons] at hrest
      rw [List.map_cons, List.map_cons, List.intercalate_cons_cons, List.append_assoc,
        List.singleton_append, hi.splitQualified_append, splitQualified, if_pos rfl, hrest,
        prependFirst, List.append_nil]

end Sql

namespace Reference

theorem nameParts_eq {name : Sql.ObjectName}
    (hpath : ∀ path, name = [⟨path, some '\x60'⟩] → '.' ∉ path.toList) :
    nameParts name = name.map fun i => i.value.toList := by
  unfold nameParts
  split
  · exact splitAtChar_of_not_mem (hpath _ rfl)
  · rfl

/-- A name refers to the same whether it is taken from its identifiers or read from its text, if no
identifier can be mistaken in the text and the name is not a whole path in backticks. -/
theorem parse_render {name : Sql.ObjectName} (h : ∀ i ∈ name, i.Plain)
    (hpath : ∀ path, name = [⟨path, some '\x60'⟩] → '.' ∉ path.toList) :
    parse (Sql.ObjectName.render name) = ofObjectName name := by
  cases name with
  | nil => rfl
  | cons i name =>
    have htrimmed : Trimmed isBlank (Sql.ObjectName.render (i :: name)).toList := by
      rw [Sql.ObjectName.toList_render]
      refine trimmed_intercalate rfl fun part hpart => ?_
      obtain ⟨j, hj, rfl⟩ := List.mem_map.1 hpart
      exact (h j hj).trimmed_render
    have hparts : (splitQualified none (Sql.ObjectName.render (i :: name)).toList).map stripQuotes =
        (nameParts (i :: name)).map stripQuotes := by
      rw [Sql.ObjectName.splitQualified_render (List.cons_ne_nil _ _) h, nameParts_eq hpath,
        List.map_map, List.map_map]
      refine List.map_congr_left fun j hj => ?_
      exact (h j hj).stripQuotes_render.trans (h j hj).stripQuotes_value.symm
    have htrim : trimChars (Sql.ObjectName.render (i :: name)).toList =
        (Sql.ObjectName.render (i :: name)).toList := htrimmed.trimWhile_eq
    rw [parse, htrim, String.ofList_toList, hparts, ofObjectName]

theorem parse_render_mixed :
    (∀ i ∈ [⟨"my db", none⟩, ⟨"a.b", some '"'⟩, ⟨"", some '\''⟩, ⟨".", some '['⟩,
      (⟨"t.1", some '\x60'⟩ : Sql.Ident)], i.Plain) ∧
    parse "my db.\"a.b\".''.[.].`t.1`" =
      some ⟨"my db.\"a.b\".''.[.].`t.1`", some "my db", "t.1"⟩ := by
  have h : ∀ i ∈ [⟨"my db", none⟩, ⟨"a.b", some '"'⟩, ⟨"", some '\''⟩, ⟨".", some '['⟩,
      (⟨"t.1", some '\x60'⟩ : Sql.Ident)], i.Plain := by decide +kernel
  have htext : Sql.ObjectName.render [⟨"my db", none⟩, ⟨"a.b", some '"'⟩, ⟨"", some '\''⟩,
      ⟨".", some '['⟩, ⟨"t.1", some '\x60'⟩] = "my db.\"a.b\".''.[.].`t.1`" := by decide +kernel
  have hread := parse_render h (by simp)
  rw [htext] at hread
  exact ⟨h, hread.trans (by decide +kernel)⟩

end Reference

end SqlLineage
