import SqlLineage.Proofs.SplitComposition
import SqlLineage.Script.Dump

/-! The lines of a dump that are no SQL, by what is written in them. The tests that a line is put to
are patterns; here each is given by the parts that a line falls into when it fits. -/

namespace SqlLineage

namespace Text

/-- The characters are those of the word, whatever their case. -/
def Spells (word : String) (cs : List Char) : Prop :=
  cs.map foldLetter = word.toList.map foldLetter

def AllBlank (cs : List Char) : Prop := ∀ c ∈ cs, isBlank c = true

theorem allBlank_nil : AllBlank [] := fun _ hc => absurd hc List.not_mem_nil

def Gap (cs : List Char) : Prop := cs ≠ [] ∧ AllBlank cs

def StartsPlain (cs : List Char) : Prop := ∀ c, cs.head? = some c → isBlank c = false

/-- The text consists of parts as they are asked for, one after the other, and a rest. -/
def Fits : List (List Char → Prop) → (List Char → Prop) → List Char → Prop
  | [], after, cs => after cs
  | p :: ps, after, cs => ∃ part rest, cs = part ++ rest ∧ p part ∧ Fits ps after rest

theorem afterWord?_eq_some_iff (word cs rest : List Char) :
    afterWord? word cs = some rest ↔
      ∃ front, cs = front ++ rest ∧ front.map foldLetter = word.map foldLetter := by
  induction word generalizing cs with
  | nil =>
    constructor
    · exact fun h => ⟨[], Option.some.inj h, rfl⟩
    · rintro ⟨front, rfl, hfront⟩
      rw [List.map_eq_nil_iff.1 hfront]
      rfl
  | cons w word ih =>
    cases cs with
    | nil =>
      constructor
      · intro h
        cases h
      · rintro ⟨front, hcs, hfront⟩
        rw [(List.append_eq_nil_iff.1 hcs.symm).1] at hfront
        cases hfront
    | cons c cs =>
      rw [afterWord?]
      split
      · rename_i hc
        rw [ih]
        constructor
        · rintro ⟨front, rfl, hfront⟩
          exact ⟨c :: front, rfl, by rw [List.map_cons, List.map_cons, hc, hfront]⟩
        · rintro ⟨front, hcs, hfront⟩
          cases front with
          | nil => cases hfront
          | cons d front =>
            obtain ⟨-, hcs⟩ := List.cons.inj hcs
            exact ⟨front, hcs, (List.cons.inj hfront).2⟩
      · rename_i hc
        constructor
        · intro h
          cases h
        · rintro ⟨front, hcs, hfront⟩
          cases front with
          | nil => cases hfront
          | cons d front =>
            obtain ⟨rfl, -⟩ := List.cons.inj hcs
            exact absurd (List.cons.inj hfront).1 hc

theorem afterWord?_spells {word : String} {front : List Char} (h : Spells word front)
    (rest : List Char) : afterWord? word.toList (front ++ rest) = some rest :=
  (afterWord?_eq_some_iff _ _ _).2 ⟨front, rfl, h⟩

theorem exists_of_afterBlanks? {cs rest : List Char} (h : afterBlanks? cs = some rest) :
    ∃ gap, cs = gap ++ rest ∧ Gap gap := by
  cases cs with
  | nil => cases h
  | cons c cs =>
    rw [afterBlanks?] at h
    split at h
    · rename_i hc
      obtain rfl := Option.some.inj h
      refine ⟨c :: cs.takeWhile isBlank, ?_, List.cons_ne_nil _ _, ?_⟩
      · rw [List.cons_append, List.takeWhile_append_dropWhile]
      · intro d hd
        rcases List.mem_cons.1 hd with rfl | hd
        · exact hc
        · exact List.all_eq_true.1 List.all_takeWhile d hd
    · cases h

theorem afterBlanks?_gap {gap rest : List Char} (hgap : Gap gap) (hrest : StartsPlain rest) :
    afterBlanks? (gap ++ rest) = some rest := by
  obtain ⟨hne, hblank⟩ := hgap
  obtain ⟨c, gap, rfl⟩ := List.exists_cons_of_ne_nil hne
  have hgap : ∀ d ∈ gap, isBlank d = true := fun d hd => hblank d (List.mem_cons_of_mem c hd)
  have hdrop : rest.dropWhile isBlank = rest := by
    cases rest with
    | nil => rfl
    | cons d rest => exact List.dropWhile_cons_of_neg (by simp [hrest d rfl])
  rw [List.cons_append, afterBlanks?, if_pos (hblank c List.mem_cons_self),
    List.dropWhile_append_of_pos hgap, hdrop]

theorem foldLetter_of_blank {c : Char} (hc : isBlank c = true) : foldLetter c = c := by
  have hrange : c.toNat ≤ 32 ∨ 133 ≤ c.toNat := by
    simp only [isBlank, inRanges, blankRanges, List.any_cons, List.any_nil, Bool.or_eq_true,
      Bool.and_eq_true, decide_eq_true_iff, Bool.false_eq_true, or_false] at hc
    omega
  have hlower : c.toLower = c := by
    refine dif_neg fun hupper => ?_
    have hcodes : 65 ≤ c.toNat ∧ c.toNat ≤ 90 := hupper
    omega
  rw [foldLetter, if_neg (by rintro rfl; cases hc), if_neg (by rintro rfl; cases hc), hlower]

theorem Spells.startsPlain {word : String} {front : List Char} (h : Spells word front)
    (hword : ∃ w, word.toList.head? = some w ∧ isBlank (foldLetter w) = false) (rest : List Char) :
    StartsPlain (front ++ rest) := by
  obtain ⟨w, hhead, hw⟩ := hword
  have hfront : (front.map foldLetter).head? = some (foldLetter w) := by
    rw [h, List.head?_map, hhead]
    rfl
  cases front with
  | nil => cases hfront
  | cons d front =>
    intro c hc
    obtain rfl : d = c := Option.some.inj hc
    have hd : foldLetter d = foldLetter w := Option.some.inj hfront
    refine Bool.eq_false_iff.2 fun hblank => ?_
    rw [← hd, foldLetter_of_blank hblank, hblank] at hw
    cases hw

theorem AllBlank.eq_nil {lead rest : List Char} (h : AllBlank lead)
    (hplain : StartsPlain (lead ++ rest)) : lead = [] := by
  cases lead with
  | nil => rfl
  | cons c lead =>
    have hc := h c List.mem_cons_self
    rw [hplain c rfl] at hc
    cases hc

theorem trimChars_startsPlain (cs : List Char) : StartsPlain (trimChars cs) := by
  intro c hc
  obtain ⟨after, hafter, -⟩ := exists_dropEndWhile isBlank (cs.dropWhile isBlank)
  have htrim : (dropEndWhile isBlank (cs.dropWhile isBlank)).head? = some c := hc
  have hhead : (cs.dropWhile isBlank).head? = some c := by
    rw [hafter, List.head?_append, htrim]
    rfl
  have hnot := List.head?_dropWhile_not isBlank cs
  rw [hhead] at hnot
  simpa using hnot

theorem anySuffix_eq_true_iff (p : List Char → Bool) (cs : List Char) :
    anySuffix p cs = true ↔ ∃ before after, cs = before ++ after ∧ p after = true := by
  induction cs with
  | nil =>
    constructor
    · exact fun h => ⟨[], [], rfl, h⟩
    · rintro ⟨before, after, hcs, h⟩
      rw [(List.append_eq_nil_iff.1 hcs.symm).2] at h
      exact h
  | cons c cs ih =>
    rw [anySuffix, Bool.or_eq_true, ih]
    constructor
    · rintro (h | ⟨before, after, rfl, h⟩)
      · exact ⟨[], c :: cs, rfl, h⟩
      · exact ⟨c :: before, after, rfl, h⟩
    · rintro ⟨before, after, hcs, h⟩
      cases before with
      | nil => exact .inl (by rw [hcs]; exact h)
      | cons d before => exact .inr ⟨before, after, (List.cons.inj hcs).2, h⟩

theorem afterWords?_two_eq_some_iff (v : String) {w : String}
    (hw : ∃ c, w.toList.head? = some c ∧ isBlank (foldLetter c) = false) (cs rest : List Char) :
    afterWords? [v, w] cs = some rest ↔
      Fits [Spells v, Gap, Spells w] (fun after => after = rest) cs := by
  have hsteps : afterWords? [v, w] cs =
      ((afterWord? v.toList cs).bind afterBlanks?).bind (afterWord? w.toList) := by
    rw [Option.bind_assoc]
    rfl
  rw [hsteps]
  constructor
  · intro h
    obtain ⟨second, hsecond, hlast⟩ := Option.bind_eq_some_iff.1 h
    obtain ⟨first, hfirst, hblanks⟩ := Option.bind_eq_some_iff.1 hsecond
    obtain ⟨front, rfl, hfront⟩ := (afterWord?_eq_some_iff _ _ _).1 hfirst
    obtain ⟨gap, rfl, hgap⟩ := exists_of_afterBlanks? hblanks
    obtain ⟨word, rfl, hword⟩ := (afterWord?_eq_some_iff _ _ _).1 hlast
    exact ⟨front, _, rfl, hfront, gap, _, rfl, hgap, word, _, rfl, hword, rfl⟩
  · rintro ⟨front, _, rfl, hfront, gap, _, rfl, hgap, word, _, rfl, hword, rfl⟩
    rw [afterWord?_spells hfront, Option.bind_some, afterBlanks?_gap hgap (hword.startsPlain hw _),
      Option.bind_some, afterWord?_spells hword]

end Text

namespace Script

open Text

/-- The line starts with the words that say that rows of data follow. -/
def HeadsData : List Char → Prop :=
  Fits [AllBlank, Spells "COPY", Gap, fun between => '\n' ∉ between, Gap, Spells "FROM", Gap,
    Spells "STDIN"] fun _ => True

/-- The line starts with the words for a change of a schema, the second of which ends there. -/
def ChangesSchema : List Char → Prop :=
  Fits [AllBlank, Spells "ALTER", Gap, Spells "SCHEMA"] fun rest => endsWord rest = true

theorem isSchemaChange_iff {line : List Char} (hplain : StartsPlain line) :
    isSchemaChange line = true ↔ ChangesSchema line := by
  have hword : ∃ c, "SCHEMA".toList.head? = some c ∧ isBlank (foldLetter c) = false :=
    ⟨'S', rfl, rfl⟩
  rw [isSchemaChange, Option.any_eq_true]
  constructor
  · rintro ⟨rest, hrest, hends⟩
    obtain ⟨alter, _, rfl, halter, gap, _, rfl, hgap, schema, _, rfl, hschema, rfl⟩ :=
      (afterWords?_two_eq_some_iff _ hword _ _).1 hrest
    exact ⟨[], _, rfl, allBlank_nil, alter, _, rfl, halter, gap, _, rfl, hgap, schema, _, rfl,
      hschema, hends⟩
  · rintro ⟨lead, _, rfl, hlead, alter, _, rfl, halter, gap, _, rfl, hgap, schema, rest, rfl,
      hschema, hends⟩
    obtain rfl := hlead.eq_nil hplain
    exact ⟨rest, (afterWords?_two_eq_some_iff _ hword _ _).2
      ⟨alter, _, rfl, halter, gap, _, rfl, hgap, schema, _, rfl, hschema, rfl⟩, hends⟩

def endsHeader (cs : List Char) : Bool :=
  ((afterBlanks? cs).bind (afterWords? ["FROM", "STDIN"])).isSome

theorem startsData_eq_true {line : List Char} :
    startsData line = true ↔ ∃ c rest, afterWord? "COPY".toList line = some (c :: rest) ∧
      isBlank c = true ∧ ∃ before after, rest = before ++ after ∧ endsHeader after = true := by
  unfold startsData
  split
  · rename_i c rest hcopy
    rw [Bool.and_eq_true, anySuffix_eq_true_iff]
    constructor
    · rintro ⟨hc, hrest⟩
      exact ⟨c, rest, hcopy, hc, hrest⟩
    · rintro ⟨c', rest', hcopy', hc, hrest⟩
      obtain ⟨rfl, rfl⟩ := List.cons.inj (Option.some.inj (hcopy.symm.trans hcopy'))
      exact ⟨hc, hrest⟩
  · rename_i hcopy
    constructor
    · intro h
      cases h
    · rintro ⟨c, rest, hcopy', -⟩
      exact absurd hcopy' (hcopy c rest)

theorem endsHeader_iff (cs : List Char) :
    endsHeader cs = true ↔
      Fits [Gap, Spells "FROM", Gap, Spells "STDIN"] (fun _ => True) cs := by
  have hstdin : ∃ c, "STDIN".toList.head? = some c ∧ isBlank (foldLetter c) = false :=
    ⟨'S', rfl, rfl⟩
  have hfrom : ∃ c, "FROM".toList.head? = some c ∧ isBlank (foldLetter c) = false :=
    ⟨'F', rfl, rfl⟩
  rw [endsHeader, Option.isSome_iff_exists]
  constructor
  · rintro ⟨rest, hrest⟩
    obtain ⟨words, hblanks, hwords⟩ := Option.bind_eq_some_iff.1 hrest
    obtain ⟨gap, rfl, hgap⟩ := exists_of_afterBlanks? hblanks
    obtain ⟨front, _, rfl, hfront, gap', _, rfl, hgap', word, _, rfl, hword, -⟩ :=
      (afterWords?_two_eq_some_iff _ hstdin _ _).1 hwords
    exact ⟨gap, _, rfl, hgap, front, _, rfl, hfront, gap', _, rfl, hgap', word, _, rfl, hword,
      trivial⟩
  · rintro ⟨gap, _, rfl, hgap, front, _, rfl, hfront, gap', _, rfl, hgap', word, rest, rfl, hword,
      -⟩
    have hwords := (afterWords?_two_eq_some_iff "FROM" hstdin _ rest).2
      ⟨front, _, rfl, hfront, gap', _, rfl, hgap', word, _, rfl, hword, rfl⟩
    refine ⟨rest, ?_⟩
    rw [afterBlanks?_gap hgap (hfront.startsPlain hfrom _), Option.bind_some, hwords]

theorem startsData_iff {line : List Char} (hplain : StartsPlain line) (hline : '\n' ∉ line) :
    startsData line = true ↔ HeadsData line := by
  rw [startsData_eq_true]
  constructor
  · rintro ⟨c, _, hcopy, hc, before, after, rfl, hends⟩
    obtain ⟨copy, rfl, hspells⟩ := (afterWord?_eq_some_iff _ _ _).1 hcopy
    have hbefore : '\n' ∉ before := fun hmem =>
      hline (List.mem_append_right _ (List.mem_cons_of_mem c (List.mem_append_left _ hmem)))
    have hgap : Gap [c] := ⟨List.cons_ne_nil _ _, fun d hd => List.mem_singleton.1 hd ▸ hc⟩
    exact ⟨[], _, rfl, allBlank_nil, copy, _, rfl, hspells, [c], _, rfl, hgap, before, _, rfl,
      hbefore, (endsHeader_iff after).1 hends⟩
  · rintro ⟨lead, _, rfl, hlead, copy, _, rfl, hcopy, gap, _, rfl, ⟨hne, hblank⟩, between, after,
      rfl, -, hends⟩
    obtain rfl := hlead.eq_nil hplain
    obtain ⟨c, gap, rfl⟩ := List.exists_cons_of_ne_nil hne
    -- the first blank ends the first word, the others count as part of what may stand between
    refine ⟨c, gap ++ (between ++ after), afterWord?_spells hcopy _, hblank c List.mem_cons_self,
      gap ++ between, after, (List.append_assoc _ _ _).symm, (endsHeader_iff after).2 hends⟩

end Script
end SqlLineage
