import SqlLineage.Proofs.ClosedText

/-! How the pieces of a script relate to its text. The segments with their semicolons are the whole
text, and the semicolons that cut are those behind a closed text. So a closed text is cut the same
alone and in front of a semicolon, and a piece is not cut again. -/

namespace SqlLineage

namespace Text

theorem dropEndWhile_append_of_neg {p : Char → Bool} {c : Char} (hc : p c = false)
    (cs : List Char) : dropEndWhile p (cs ++ [c]) = cs ++ [c] := by
  simp [dropEndWhile, hc]

theorem exists_dropEndWhile (p : Char → Bool) (cs : List Char) :
    ∃ after, cs = dropEndWhile p cs ++ after ∧ ∀ c ∈ after, p c = true := by
  refine ⟨(cs.reverse.takeWhile p).reverse, ?_, ?_⟩
  · rw [dropEndWhile, ← List.reverse_append, List.takeWhile_append_dropWhile, List.reverse_reverse]
  · intro c hc
    exact List.all_eq_true.1 List.all_takeWhile c (List.mem_reverse.1 hc)

theorem exists_trimChars (cs : List Char) :
    ∃ before after, cs = before ++ (trimChars cs ++ after) ∧
      (∀ c ∈ before, isBlank c = true) ∧ ∀ c ∈ after, isBlank c = true := by
  obtain ⟨after, hafter, hblank⟩ := exists_dropEndWhile isBlank (cs.dropWhile isBlank)
  refine ⟨cs.takeWhile isBlank, after, ?_, fun c hc => ?_, hblank⟩
  · rw [trimChars, trimWhile, ← hafter, List.takeWhile_append_dropWhile]
  · exact List.all_eq_true.1 List.all_takeWhile c hc

theorem trimChars_append {before after : List Char} (hbefore : ∀ c ∈ before, isBlank c = true)
    (hafter : ∀ c ∈ after, isBlank c = true) (cs : List Char) :
    trimChars (before ++ (cs ++ after)) = trimChars cs := by
  have hstart : trimChars (before ++ (cs ++ after)) = trimChars (cs ++ after) := by
    clear hafter
    induction before with
    | nil => rfl
    | cons c before ih =>
      rw [List.cons_append, trimChars_cons_blank (hbefore c List.mem_cons_self)]
      exact ih fun a ha => hbefore a (List.mem_cons_of_mem c ha)
  rw [hstart]
  clear hstart hbefore
  induction after generalizing cs with
  | nil => rw [List.append_nil]
  | cons c after ih =>
    have hrest := ih (fun a ha => hafter a (List.mem_cons_of_mem c ha)) (cs ++ [c])
    rw [List.append_assoc, List.singleton_append] at hrest
    rw [hrest, trimChars_append_blank (hafter c List.mem_cons_self)]

theorem trimChars_trimChars (cs : List Char) : trimChars (trimChars cs) = trimChars cs := by
  obtain ⟨before, after, hcs, hbefore, hafter⟩ := exists_trimChars cs
  have htrim := trimChars_append hbefore hafter (trimChars cs)
  rw [← hcs] at htrim
  exact htrim.symm

end Text

namespace Script
open Sql

variable {e : Bool} {mode : Mode} {c : Char} {cs x : List Char}

/-! ### The segments of a text -/

theorem segments_cases (e : Bool) (mode : Mode) (cs : List Char) :
    (segments e mode cs = [cs] ∧ ∃ mode', scan? e [] mode cs = some mode') ∨
      ∃ first rest, cs = first ++ ';' :: rest ∧ scan? e (';' :: rest) mode first = some .code ∧
        segments e mode cs = first :: segments e .code rest := by
  induction cs generalizing mode with
  | nil => exact .inl ⟨rfl, mode, rfl⟩
  | cons c cs ih =>
    by_cases hcut : (mode = .code && c = ';') = true
    · have hboth : mode = .code ∧ c = ';' := by simpa using hcut
      obtain ⟨rfl, rfl⟩ := hboth
      exact .inr ⟨[], cs, rfl, rfl, by rw [segments, if_pos hcut]⟩
    · rw [segments, if_neg hcut]
      obtain ⟨hsegments, mode', hscan⟩ | ⟨first, rest, rfl, hscan, hsegments⟩ :=
        ih (mode.step e c cs)
      · refine .inl ⟨by rw [hsegments]; rfl, mode', ?_⟩
        rw [scan?, if_neg hcut, List.append_nil, hscan]
      · refine .inr ⟨c :: first, rest, rfl, ?_, by rw [hsegments]; rfl⟩
        rw [scan?, if_neg hcut, hscan]

theorem endsMarks_semicolon (rest : List Char) : EndsMarks (';' :: rest) := by
  intro c hc
  obtain rfl := Option.some.inj hc
  rfl

theorem wellTagged_code : Mode.code.WellTagged := trivial

theorem run_semicolon (e : Bool) (cs : List Char) :
    Mode.run e .code (';' :: cs) = Mode.run e .code cs := rfl

theorem scan?_first {first rest : List Char}
    (h : scan? e (';' :: rest) .code first = some .code) : scan? e [] .code first = some .code := by
  rw [← wellTagged_code.scan?_eq (endsMarks_semicolon rest)]
  exact h

/-- The segments of a script: each is read without a cut, and all but the last are closed. -/
inductive Cut (e : Bool) : List Char → List (List Char) → Prop
  | last {cs : List Char} {mode : Mode} : scan? e [] .code cs = some mode → Cut e cs [cs]
  | next {first rest : List Char} {segs : List (List Char)} :
      scan? e [] .code first = some .code → Cut e rest segs →
      Cut e (first ++ ';' :: rest) (first :: segs)

theorem cut_segments (e : Bool) (cs : List Char) : Cut e cs (segments e .code cs) := by
  induction hn : cs.length using Nat.strongRecOn generalizing cs with
  | ind n ih =>
    obtain ⟨hsegments, mode', hscan⟩ | ⟨first, rest, rfl, hscan, hsegments⟩ :=
      segments_cases e .code cs
    · rw [hsegments]
      exact .last hscan
    · rw [hsegments]
      refine .next (scan?_first hscan) (ih rest.length ?_ rest rfl)
      simp only [← hn, List.length_append, List.length_cons]
      omega

section

variable {segs : List (List Char)}

theorem Cut.scan?_of_mem {segment : List Char} (h : Cut e cs segs) (hmem : segment ∈ segs) :
    ∃ mode, scan? e [] .code segment = some mode := by
  induction h with
  | last hscan =>
    obtain rfl := List.mem_singleton.1 hmem
    exact ⟨_, hscan⟩
  | next hscan _ ih =>
    obtain rfl | hmem := List.mem_cons.1 hmem
    · exact ⟨.code, hscan⟩
    · exact ih hmem

theorem intercalate_cons {segs : List String} (h : segs ≠ []) (first : String) :
    ";".intercalate (first :: segs) = first ++ ";" ++ ";".intercalate segs := by
  obtain ⟨second, segs, rfl⟩ := List.exists_cons_of_ne_nil h
  exact String.intercalate_cons_cons

theorem Cut.ne_nil (h : Cut e cs segs) : segs ≠ [] := by
  cases h <;> exact List.cons_ne_nil _ _

theorem Cut.join (h : Cut e cs segs) :
    ";".intercalate (segs.map String.ofList) = String.ofList cs := by
  induction h with
  | last _ => exact String.intercalate_singleton
  | next _ hrest ih =>
    rw [List.map_cons, intercalate_cons (by simpa using hrest.ne_nil), ih,
      List.append_cons, String.ofList_append, String.ofList_append]

theorem Cut.closed_take (h : Cut e cs segs) {n : Nat} (hpos : 0 < n) (hn : n < segs.length) :
    Closed e (";".intercalate ((segs.take n).map String.ofList)).toList := by
  induction h generalizing n with
  | last _ =>
    rw [List.length_singleton] at hn
    omega
  | @next first rest segs hscan hrest ih =>
    obtain ⟨n, rfl⟩ : ∃ m, n = m + 1 := ⟨n - 1, by omega⟩
    rw [List.length_cons, Nat.add_lt_add_iff_right] at hn
    have hfirst := run_of_scan? hscan
    rw [List.append_nil, Mode.run] at hfirst
    rw [closed_iff_run, List.take_succ_cons, List.map_cons]
    obtain rfl | hpos := Nat.eq_zero_or_pos n
    · simpa using hfirst
    · have hne : (segs.take n).map String.ofList ≠ [] := by
        intro hempty
        have hlength := congrArg List.length hempty
        simp only [List.length_map, List.length_take, List.length_nil] at hlength
        omega
      have hjoin :
          (";".intercalate (String.ofList first :: (segs.take n).map String.ofList)).toList =
            first ++ ';' :: (";".intercalate ((segs.take n).map String.ofList)).toList := by
        rw [intercalate_cons hne, String.toList_append, String.toList_append, String.toList_ofList,
          List.append_assoc]
        rfl
      rw [hjoin, wellTagged_code.run_append (endsMarks_semicolon _), hfirst, run_semicolon]
      exact (ih hpos hn).run

end

/-! ### Composition -/

theorem Mode.WellTagged.segments_append (h : mode.WellTagged) (cs : List Char) :
    ∃ init last, segments e mode cs = init ++ [last] ∧
      ∀ x, EndsMarks x → segments e mode (cs ++ x) =
        init ++ Text.prependFirst last (segments e (mode.run e cs) x) := by
  induction cs generalizing mode with
  | nil =>
    refine ⟨[], [], rfl, fun x _ => ?_⟩
    exact (Text.prependFirst_nil (segments_ne_nil e mode x)).symm
  | cons c cs ih =>
    by_cases hcut : (mode = .code && c = ';') = true
    · obtain ⟨init, last, hsegments, happend⟩ := ih wellTagged_code
      have hboth : mode = .code ∧ c = ';' := by simpa using hcut
      obtain ⟨rfl, rfl⟩ := hboth
      refine ⟨[] :: init, last, by rw [segments, if_pos hcut, hsegments]; rfl, fun x hx => ?_⟩
      rw [List.cons_append, segments, if_pos hcut, happend x hx]
      rfl
    · obtain ⟨init, last, hsegments, happend⟩ := ih (h.step (e := e) c cs)
      have hstep : ∀ x, EndsMarks x → segments e mode (c :: cs ++ x) =
          Text.consFirst c (segments e (mode.step e c cs) (cs ++ x)) := by
        intro x hx
        rw [List.cons_append, segments, if_neg hcut, h.step_append hx]
      -- the character goes to the first segment, which may be the last one too
      cases init with
      | nil =>
        refine ⟨[], c :: last, by rw [segments, if_neg hcut, hsegments]; rfl, fun x hx => ?_⟩
        rw [hstep x hx, happend x hx]
        exact Text.consFirst_prependFirst c last _
      | cons first init =>
        refine ⟨(c :: first) :: init, last, by rw [segments, if_neg hcut, hsegments]; rfl,
          fun x hx => ?_⟩
        rw [hstep x hx, happend x hx]
        rfl

theorem Closed.segments_append (h : Closed e cs) (rest : List Char) :
    segments e .code (cs ++ ';' :: rest) = segments e .code cs ++ segments e .code rest := by
  obtain ⟨init, last, hsegments, happend⟩ := wellTagged_code.segments_append (e := e) cs
  have hcut : segments e .code (';' :: rest) = [] :: segments e .code rest := by
    rw [segments, if_pos (by simp)]
  rw [happend _ (endsMarks_semicolon rest), hsegments, h.run, hcut]
  simp [Text.prependFirst]

theorem segments_append_of_not_closed (h : ¬ Closed e cs) :
    ∃ init last, segments e .code cs = init ++ [last] ∧
      segments e .code (cs ++ [';']) = init ++ [last ++ [';']] := by
  obtain ⟨init, last, hsegments, happend⟩ := wellTagged_code.segments_append (e := e) cs
  have hmode : Mode.run e .code cs ≠ .code := fun hrun => h (closed_of_run hrun)
  refine ⟨init, last, hsegments, ?_⟩
  rw [happend _ (endsMarks_semicolon []), segments, if_neg (by simp [hmode])]
  rfl

theorem piece?_eq_some_iff {segment : List Char} {p : String} :
    piece? segment = some p ↔ Text.trimChars segment = p.toList ∧ p ≠ "" := by
  unfold piece?
  cases Text.trimChars segment with
  | nil => exact ⟨nofun, fun ⟨hempty, hne⟩ => absurd (String.toList_eq_nil_iff.1 hempty.symm) hne⟩
  | cons c cs =>
    constructor
    · intro h
      obtain rfl := Option.some.inj h
      simp
    · rintro ⟨h, -⟩
      have hp : String.ofList (c :: cs) = p := by rw [h, String.ofList_toList]
      exact congrArg some hp

theorem trimChars_semicolon (segment : List Char) :
    Text.trimChars (segment ++ [';']) = segment.dropWhile Text.isBlank ++ [';'] := by
  have hstart : (segment ++ [';']).dropWhile Text.isBlank =
      segment.dropWhile Text.isBlank ++ [';'] := by
    rw [List.dropWhile_append]
    split
    · rename_i hempty
      rw [List.isEmpty_iff.1 hempty]
      rfl
    · rfl
  rw [Text.trimChars, Text.trimWhile, hstart, Text.dropEndWhile_append_of_neg (by decide)]

theorem piece?_semicolon_ne (segment : List Char) :
    piece? (segment ++ [';']) ≠ piece? segment := by
  intro heq
  have hlong : piece? (segment ++ [';']) =
      some (String.ofList (segment.dropWhile Text.isBlank ++ [';'])) := by
    rw [piece?_eq_some_iff, trimChars_semicolon, String.toList_ofList]
    exact ⟨rfl, by simp⟩
  obtain ⟨hshort, -⟩ := piece?_eq_some_iff.1 (heq.symm.trans hlong)
  obtain ⟨after, hafter, -⟩ :=
    Text.exists_dropEndWhile Text.isBlank (segment.dropWhile Text.isBlank)
  rw [String.toList_ofList, Text.trimChars, Text.trimWhile] at hshort
  have hlength := congrArg List.length hafter
  rw [hshort] at hlength
  simp only [List.length_append, List.length_singleton] at hlength
  omega

theorem head?_filterMap_singleton (segment : List Char) :
    ([segment].filterMap piece?).head? = piece? segment := by
  cases h : piece? segment <;> simp [h]

/-- A text and one behind a semicolon are cut independently of each other just if the first closes
what it opens. -/
theorem split_append_iff (e : Bool) (a : String) :
    (∀ c : String, split e (a ++ ";" ++ c) = split e a ++ split e c) ↔ Closed e a.toList := by
  have htext : ∀ c : String, (a ++ ";" ++ c).toList = a.toList ++ ';' :: c.toList := by
    intro c
    simp
  constructor
  · intro h
    refine Classical.byContradiction fun hopen => ?_
    obtain ⟨init, last, hsegments, happend⟩ := segments_append_of_not_closed hopen
    -- with nothing behind the semicolon only the last segment can tell the two sides apart
    have hempty := h ""
    have hnothing : split e "" = [] := rfl
    rw [hnothing, List.append_nil, split, split, htext, String.toList_empty, happend, hsegments,
      List.filterMap_append, List.filterMap_append] at hempty
    have hlast := congrArg List.head? (List.append_cancel_left hempty)
    rw [head?_filterMap_singleton, head?_filterMap_singleton] at hlast
    exact piece?_semicolon_ne last hlast
  · intro hclosed c
    rw [split, htext, hclosed.segments_append, List.filterMap_append]
    rfl

/-! ### Pieces -/

theorem isTagCharacter_of_blank (hc : Text.isBlank c = true) : isTagCharacter c = false := by
  have hrange : c.toNat ≤ 32 ∨ 133 ≤ c.toNat := by
    simp only [Text.isBlank, Text.inRanges, Text.blankRanges, List.any_cons, List.any_nil,
      Bool.or_eq_true, Bool.and_eq_true, decide_eq_true_iff, Bool.false_eq_true, or_false] at hc
    omega
  refine Bool.eq_false_iff.2 fun htag => ?_
  obtain hword | rfl := toNat_of_isTagCharacter htag
  · omega
  · cases hc

theorem ne_of_blank {d : Char} (hc : Text.isBlank c = true) (hd : Text.isBlank d = false) :
    c ≠ d := by
  rintro rfl
  rw [hc] at hd
  cases hd

theorem isMarkCharacter_of_blank (hc : Text.isBlank c = true) : isMarkCharacter c = false := by
  simp [isMarkCharacter, isTagCharacter_of_blank hc, ne_of_blank (d := '$') hc rfl,
    ne_of_blank (d := '-') hc rfl, ne_of_blank (d := '*') hc rfl, ne_of_blank (d := '/') hc rfl]

theorem codeStep_blank (hc : Text.isBlank c = true) (cs : List Char) : codeStep c cs = .code := by
  refine codeStep_eq_code fun mark mode hopening hstarts => ?_
  obtain ⟨rest, hrest⟩ := hstarts
  cases hopening with
  | quote hq =>
    obtain ⟨rfl, -⟩ := List.cons.inj hrest
    simp [isQuote, ne_of_blank (d := '\'') hc rfl, ne_of_blank (d := '"') hc rfl,
      ne_of_blank (d := '\x60') hc rfl] at hq
  | dashes => exact ne_of_blank hc rfl (List.cons.inj hrest).1.symm
  | slashStar => exact ne_of_blank hc rfl (List.cons.inj hrest).1.symm
  | tag _ => exact ne_of_blank hc rfl (List.cons.inj hrest).1.symm

theorem scan?_blanks (h : ∀ c ∈ cs, Text.isBlank c = true) :
    scan? e x .code cs = some .code := by
  induction cs with
  | nil => rfl
  | cons c cs ih =>
    have hc := h c List.mem_cons_self
    rw [scan?_cons e fun hcut => ne_of_blank hc rfl hcut.2, Mode.step, codeStep_blank hc]
    exact ih fun a ha => h a (List.mem_cons_of_mem c ha)

/-- The cutter leaves a piece alone: the blanks that are gone from its ends meant nothing. -/
theorem split_piece {segment : List Char} {p : String}
    (hscan : scan? e [] .code segment = some mode) (h : piece? segment = some p) :
    split e p = [p] := by
  obtain ⟨htrim, hne⟩ := piece?_eq_some_iff.1 h
  obtain ⟨before, after, hsegment, hbefore, hafter⟩ := Text.exists_trimChars segment
  rw [htrim] at hsegment
  rw [hsegment, scan?_append, scan?_blanks hbefore, Option.bind_some, scan?_append,
    List.append_nil] at hscan
  obtain ⟨mode', hmode', -⟩ := Option.bind_eq_some_iff.1 hscan
  have hends : EndsMarks after := by
    intro c hc
    exact isMarkCharacter_of_blank (hafter c (List.mem_of_mem_head? hc))
  rw [wellTagged_code.scan?_eq hends] at hmode'
  have hsegments := segments_of_scan? e hmode'
  have hpiece : piece? p.toList = some p := by
    rw [piece?_eq_some_iff, ← htrim, Text.trimChars_trimChars]
    exact ⟨rfl, hne⟩
  rw [List.append_nil] at hsegments
  rw [split, hsegments]
  simp [segments, Text.prependFirst, hpiece]

theorem filterMap_piece? (segs : List (List Char)) :
    segs.filterMap piece? = ((segs.map String.ofList).map Text.trim).filter (· ≠ "") := by
  induction segs with
  | nil => rfl
  | cons segment segs ih =>
    rw [List.map_cons, List.map_cons, List.filterMap_cons, List.filter_cons, ← ih, Text.trim,
      String.toList_ofList, piece?]
    cases Text.trimChars segment with
    | nil => rfl
    | cons c cs => simp

/-- The pieces of a script are what is left of its segments. The segments with semicolons between
them are the script, a semicolon parts two of them just if the text before it closes what it opens,
and no piece is cut again. -/
theorem split_exact (e : Bool) (sql : String) :
    (∃ segs : List String, segs ≠ [] ∧ ";".intercalate segs = sql ∧
      split e sql = (segs.map Text.trim).filter (· ≠ "") ∧
      ∀ before after : String, before ++ ";" ++ after = sql →
        (Closed e before.toList ↔
          ∃ n, 0 < n ∧ n < segs.length ∧ before = ";".intercalate (segs.take n))) ∧
      ∀ p ∈ split e sql, split e p = [p] := by
  have hcut := cut_segments e sql.toList
  refine ⟨⟨(segments e .code sql.toList).map String.ofList, ?_, ?_, ?_, ?_⟩, ?_⟩
  · simpa using hcut.ne_nil
  · rw [hcut.join, String.ofList_toList]
  · exact filterMap_piece? _
  · intro before after hsql
    simp only [← List.map_take, List.length_map]
    constructor
    · intro hclosed
      have hsegments : segments e .code sql.toList =
          segments e .code before.toList ++ segments e .code after.toList := by
        rw [← hclosed.segments_append, ← hsql]
        simp
      have hbefore := cut_segments e before.toList
      refine ⟨(segments e .code before.toList).length, ?_, ?_, ?_⟩
      · exact List.length_pos_iff.2 hbefore.ne_nil
      · rw [hsegments, List.length_append]
        have hpos := List.length_pos_iff.2 (cut_segments e after.toList).ne_nil
        omega
      · rw [hsegments, List.take_left, hbefore.join, String.ofList_toList]
    · rintro ⟨n, hpos, hn, rfl⟩
      exact hcut.closed_take hpos hn
  · intro p hp
    obtain ⟨segment, hmem, hpiece⟩ := List.mem_filterMap.1 hp
    obtain ⟨mode, hscan⟩ := hcut.scan?_of_mem hmem
    exact split_piece hscan hpiece

end Script
end SqlLineage
