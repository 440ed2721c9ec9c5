import SqlLineage.Proofs.DumpLine
import SqlLineage.Proofs.TextParts

/-! A dump is cleaned line by line. Which lines are no SQL is said of the lines and their places
alone: a line belongs to a block of data if a header comes before it and no end of data in between,
and a header is no header where it is itself data. The cleaner, which goes through the lines once,
comments out just these lines and keeps all others. -/

namespace SqlLineage

namespace Text

theorem mem_of_mem_trimChars {c : Char} {cs : List Char} (h : c ∈ trimChars cs) : c ∈ cs := by
  obtain ⟨before, after, hcs, -, -⟩ := exists_trimChars cs
  rw [hcs]
  exact List.mem_append_right _ (List.mem_append_left _ h)

theorem mem_of_mem_dropReturn {c : Char} {line : List Char} (h : c ∈ dropReturn line) :
    c ∈ line := by
  unfold dropReturn at h
  split at h
  · exact (List.dropLast_sublist line).subset h
  · exact h

theorem newline_not_mem_linesFrom {start : List Char} (hstart : '\n' ∉ start) (cs : List Char) :
    ∀ line ∈ linesFrom start cs, '\n' ∉ line := by
  induction cs generalizing start with
  | nil =>
    intro line hline
    rw [linesFrom] at hline
    split at hline
    · cases hline
    · obtain rfl := List.mem_singleton.1 hline
      exact fun hmem => hstart (List.mem_reverse.1 hmem)
  | cons c cs ih =>
    intro line hline
    rw [linesFrom] at hline
    split at hline
    · rcases List.mem_cons.1 hline with rfl | hline
      · exact fun hmem => hstart (List.mem_reverse.1 (mem_of_mem_dropReturn hmem))
      · exact ih List.not_mem_nil line hline
    · rename_i hc
      refine ih (fun hmem => ?_) line hline
      rcases List.mem_cons.1 hmem with rfl | hmem
      · exact hc rfl
      · exact hstart hmem

end Text

namespace Script

open Text

variable {lines : List (List Char)}

/-- What is left of line `i` without the blanks around it has the property. -/
def LineIs (lines : List (List Char)) (i : Nat) (p : List Char → Prop) : Prop :=
  ∃ line, lines[i]? = some line ∧ p (trimChars line)

theorem lineIs_iff {i : Nat} {line : List Char} (hline : lines[i]? = some line)
    (p : List Char → Prop) : LineIs lines i p ↔ p (trimChars line) := by
  constructor
  · rintro ⟨line', hline', hp⟩
    obtain rfl := Option.some.inj (hline.symm.trans hline')
    exact hp
  · exact fun hp => ⟨line, hline, hp⟩

/-- The line is data: a header that is no data itself comes before it, and no end of data in
between. The line that ends the data still belongs to it. -/
def InData (lines : List (List Char)) (i : Nat) : Prop :=
  ∃ j, ∃ _ : j < i, LineIs lines j HeadsData ∧ ¬ InData lines j ∧
    ∀ k, j < k → k < i → ¬ LineIs lines k (· = ['\\', '.'])
termination_by i

/-- The line is no SQL. -/
def Noise (lines : List (List Char)) (i : Nat) : Prop :=
  (¬ InData lines i ∧ LineIs lines i HeadsData) ∨ InData lines i ∨
    LineIs lines i (fun trimmed => trimmed.head? = some '\\') ∨ LineIs lines i ChangesSchema

theorem not_inData_zero (lines : List (List Char)) : ¬ InData lines 0 := by
  rw [InData]
  rintro ⟨j, hj, -⟩
  exact Nat.not_lt_zero j hj

theorem inData_succ (lines : List (List Char)) (i : Nat) :
    InData lines (i + 1) ↔
      (InData lines i ∧ ¬ LineIs lines i (· = ['\\', '.'])) ∨
      (¬ InData lines i ∧ LineIs lines i HeadsData) := by
  constructor
  · intro h
    rw [InData] at h
    obtain ⟨j, hj, hheads, hout, hopen⟩ := h
    rcases Nat.lt_succ_iff_lt_or_eq.1 hj with hlt | rfl
    · refine .inl ⟨?_, hopen i hlt (Nat.lt_succ_self i)⟩
      rw [InData]
      exact ⟨j, hlt, hheads, hout, fun k hjk hki => hopen k hjk (Nat.lt_succ_of_lt hki)⟩
    · exact .inr ⟨hout, hheads⟩
  · rintro (⟨hin, hnot⟩ | ⟨hout, hheads⟩)
    · rw [InData] at hin
      obtain ⟨j, hj, hheads, hout, hopen⟩ := hin
      rw [InData]
      refine ⟨j, Nat.lt_succ_of_lt hj, hheads, hout, fun k hjk hki => ?_⟩
      rcases Nat.lt_succ_iff_lt_or_eq.1 hki with hlt | rfl
      · exact hopen k hjk hlt
      · exact hnot
    · rw [InData]
      exact ⟨i, Nat.lt_succ_self i, hheads, hout,
        fun k hik hki => absurd hki (Nat.not_lt.2 (Nat.succ_le_of_lt hik))⟩

/-! ### The pass over the lines -/

def dataAfter (inData : Bool) (lines : List (List Char)) : Bool :=
  lines.foldl (fun inData line => (cleanLine inData line).2) inData

theorem cleanLine_inData (line : List Char) :
    cleanLine true line = (commented line, !endsData (trimChars line)) := rfl

theorem cleanLine_of_startsData {line : List Char} (h : startsData (trimChars line) = true) :
    cleanLine false line = (commented (trimChars line), true) := by
  simp [cleanLine, h]

theorem cleanLine_of_command {line : List Char} (hstarts : startsData (trimChars line) = false)
    (h : (isClientCommand (trimChars line) || isSchemaChange (trimChars line)) = true) :
    cleanLine false line = (commented (trimChars line), false) := by
  simp only [cleanLine, hstarts, h, Bool.false_eq_true, if_false, if_true]

theorem cleanLine_of_sql {line : List Char} (hstarts : startsData (trimChars line) = false)
    (h : (isClientCommand (trimChars line) || isSchemaChange (trimChars line)) = false) :
    cleanLine false line = (line, false) := by
  simp only [cleanLine, hstarts, h, Bool.false_eq_true, if_false]

theorem cleanLine_snd_false (line : List Char) :
    (cleanLine false line).2 = startsData (trimChars line) := by
  cases hstarts : startsData (trimChars line) with
  | true => rw [cleanLine_of_startsData hstarts]
  | false =>
    cases h : isClientCommand (trimChars line) || isSchemaChange (trimChars line) with
    | true => rw [cleanLine_of_command hstarts h]
    | false => rw [cleanLine_of_sql hstarts h]

theorem length_cleanLines (inData : Bool) (lines : List (List Char)) :
    (cleanLines inData lines).length = lines.length := by
  induction lines generalizing inData with
  | nil => rfl
  | cons line lines ih =>
    rw [cleanLines, List.length_cons, List.length_cons, ih]

theorem cleanLines_getElem? (inData : Bool) (lines : List (List Char)) (i : Nat) :
    (cleanLines inData lines)[i]? =
      lines[i]?.map fun line => (cleanLine (dataAfter inData (lines.take i)) line).1 := by
  induction lines generalizing inData i with
  | nil => rfl
  | cons line lines ih =>
    rw [cleanLines]
    cases i with
    | zero => rfl
    | succ i => exact ih (cleanLine inData line).2 i

section Scan

variable (hlines : ∀ line ∈ lines, '\n' ∉ line)
include hlines

theorem startsData_trimChars_iff {line : List Char} (hline : line ∈ lines) :
    startsData (trimChars line) = true ↔ HeadsData (trimChars line) :=
  startsData_iff (trimChars_startsPlain line) fun hmem =>
    hlines line hline (mem_of_mem_trimChars hmem)

theorem dataAfter_take_iff {i : Nat} (hi : i ≤ lines.length) :
    dataAfter false (lines.take i) = true ↔ InData lines i := by
  -- on the number of lines passed: what is known before a line and the line itself decide the next
  induction i with
  | zero => simp [dataAfter, not_inData_zero]
  | succ i ih =>
    have hlt : i < lines.length := hi
    have hline : lines[i]? = some lines[i] := List.getElem?_eq_getElem hlt
    have hstep : dataAfter false (lines.take (i + 1)) =
        (cleanLine (dataAfter false (lines.take i)) lines[i]).2 := by
      rw [List.take_succ_eq_append_getElem hlt, dataAfter, List.foldl_append]
      rfl
    have ih := ih (Nat.le_of_lt hlt)
    rw [hstep, inData_succ, lineIs_iff hline, lineIs_iff hline]
    cases hdata : dataAfter false (lines.take i) with
    | true =>
      have hin : InData lines i := ih.1 hdata
      simp [cleanLine_inData, endsData, hin]
    | false =>
      have hout : ¬ InData lines i := fun hin => by
        rw [ih.2 hin] at hdata
        cases hdata
      rw [cleanLine_snd_false, startsData_trimChars_iff hlines (List.getElem_mem hlt)]
      simp [hout]

theorem dataAfter_take_of_inData {i : Nat} {line : List Char} (hline : lines[i]? = some line)
    (h : InData lines i) : dataAfter false (lines.take i) = true :=
  (dataAfter_take_iff hlines (Nat.le_of_lt (List.getElem?_eq_some_iff.1 hline).1)).2 h

theorem dataAfter_take_of_not_inData {i : Nat} {line : List Char} (hline : lines[i]? = some line)
    (h : ¬ InData lines i) : dataAfter false (lines.take i) = false :=
  Bool.eq_false_iff.2 fun hdata =>
    h ((dataAfter_take_iff hlines (Nat.le_of_lt (List.getElem?_eq_some_iff.1 hline).1)).1 hdata)

theorem noise_iff_of_not_inData {i : Nat} {line : List Char} (hline : lines[i]? = some line)
    (h : ¬ InData lines i) :
    Noise lines i ↔ startsData (trimChars line) = true ∨
      (isClientCommand (trimChars line) || isSchemaChange (trimChars line)) = true := by
  have hplain := trimChars_startsPlain line
  rw [startsData_trimChars_iff hlines (List.mem_of_getElem? hline), Bool.or_eq_true,
    isSchemaChange_iff hplain, isClientCommand, beq_iff_eq, Noise, lineIs_iff hline,
    lineIs_iff hline, lineIs_iff hline]
  simp [h]

theorem cleanLines_of_inData {i : Nat} {line : List Char} (hline : lines[i]? = some line)
    (h : InData lines i) : (cleanLines false lines)[i]? = some (commented line) := by
  rw [cleanLines_getElem?, hline, Option.map_some, dataAfter_take_of_inData hlines hline h,
    cleanLine_inData]

theorem cleanLines_of_noise {i : Nat} {line : List Char} (hline : lines[i]? = some line)
    (hnoise : Noise lines i) (h : ¬ InData lines i) :
    (cleanLines false lines)[i]? = some (commented (trimChars line)) := by
  rw [cleanLines_getElem?, hline, Option.map_some, dataAfter_take_of_not_inData hlines hline h]
  cases hstarts : startsData (trimChars line) with
  | true => rw [cleanLine_of_startsData hstarts]
  | false =>
    have hcommand := ((noise_iff_of_not_inData hlines hline h).1 hnoise).resolve_left
      (by rw [hstarts]; exact Bool.false_ne_true)
    rw [cleanLine_of_command hstarts hcommand]

theorem cleanLines_of_not_noise {i : Nat} {line : List Char} (hline : lines[i]? = some line)
    (hnoise : ¬ Noise lines i) : (cleanLines false lines)[i]? = some line := by
  have h : ¬ InData lines i := fun hin => hnoise (.inr (.inl hin))
  rw [noise_iff_of_not_inData hlines hline h, not_or, Bool.not_eq_true, Bool.not_eq_true] at hnoise
  rw [cleanLines_getElem?, hline, Option.map_some, dataAfter_take_of_not_inData hlines hline h,
    cleanLine_of_sql hnoise.1 hnoise.2]

end Scan

/-! ### Lines that change -/

theorem trimChars_commented_head (cs : List Char) :
    (trimChars (commented cs)).head? = some '-' := by
  obtain ⟨before, after, hcs, hbefore, hafter⟩ := exists_trimChars (commented cs)
  cases before with
  | cons c before =>
    have hc := hbefore c List.mem_cons_self
    rw [← (List.cons.inj hcs).1] at hc
    cases hc
  | nil =>
    cases htrim : trimChars (commented cs) with
    | cons c rest =>
      rw [htrim] at hcs
      rw [List.head?_cons, ← (List.cons.inj hcs).1]
    | nil =>
      rw [htrim] at hcs
      have hdash := hafter '-' (by
        rw [← show commented cs = after from hcs]
        exact List.mem_cons_self)
      cases hdash

theorem commented_ne (line : List Char) : commented line ≠ line := by
  intro heq
  have hlength : line.length + 3 = line.length := congrArg List.length heq
  omega

theorem commented_trimChars_ne {line : List Char} (h : startsData (trimChars line) = true ∨
      (isClientCommand (trimChars line) || isSchemaChange (trimChars line)) = true) :
    commented (trimChars line) ≠ line := by
  intro heq
  have hhead := trimChars_commented_head (trimChars line)
  rw [heq] at hhead
  cases htrim : trimChars line with
  | nil =>
    rw [htrim] at hhead
    cases hhead
  | cons c rest =>
    rw [htrim] at hhead h
    obtain rfl : c = '-' := Option.some.inj hhead
    have hno : startsData ('-' :: rest) = false ∧
        (isClientCommand ('-' :: rest) || isSchemaChange ('-' :: rest)) = false := ⟨rfl, rfl⟩
    rw [hno.1, hno.2] at h
    simp at h

theorem cleanLines_eq_iff (hlines : ∀ line ∈ lines, '\n' ∉ line) :
    cleanLines false lines = lines ↔ ∀ i < lines.length, ¬ Noise lines i := by
  constructor
  · intro heq i hi hnoise
    have hline : lines[i]? = some lines[i] := List.getElem?_eq_getElem hi
    by_cases hdata : InData lines i
    · have hcleaned := cleanLines_of_inData hlines hline hdata
      rw [heq, hline, Option.some.injEq] at hcleaned
      exact commented_ne _ hcleaned.symm
    · have hcleaned := cleanLines_of_noise hlines hline hnoise hdata
      rw [heq, hline, Option.some.injEq] at hcleaned
      exact commented_trimChars_ne ((noise_iff_of_not_inData hlines hline hdata).1 hnoise)
        hcleaned.symm
  · intro hnone
    refine List.ext_getElem? fun i => ?_
    cases hline : lines[i]? with
    | none => rw [cleanLines_getElem?, hline, Option.map_none]
    | some line =>
      exact cleanLines_of_not_noise hlines hline
        (hnone i (List.getElem?_eq_some_iff.1 hline).1)

theorem cleanLines_cases (hlines : ∀ line ∈ lines, '\n' ∉ line) {cleaned : List Char}
    (h : cleaned ∈ cleanLines false lines) :
    (∃ i, lines[i]? = some cleaned ∧ ¬ Noise lines i) ∨
      ∃ kept, '\n' ∉ kept ∧ cleaned = commented kept := by
  obtain ⟨i, hi⟩ := List.mem_iff_getElem?.1 h
  obtain ⟨line, hline, -⟩ :=
    Option.map_eq_some_iff.1 ((cleanLines_getElem? false lines i).symm.trans hi)
  have hplain := hlines line (List.mem_of_getElem? hline)
  by_cases hnoise : Noise lines i
  · by_cases hdata : InData lines i
    · obtain rfl := Option.some.inj ((cleanLines_of_inData hlines hline hdata).symm.trans hi)
      exact .inr ⟨line, hplain, rfl⟩
    · obtain rfl := Option.some.inj ((cleanLines_of_noise hlines hline hnoise hdata).symm.trans hi)
      exact .inr ⟨trimChars line, fun hmem => hplain (mem_of_mem_trimChars hmem), rfl⟩
  · obtain rfl := Option.some.inj ((cleanLines_of_not_noise hlines hline hnoise).symm.trans hi)
    exact .inl ⟨i, hline, hnoise⟩

theorem newline_not_mem_cleanLines (hlines : ∀ line ∈ lines, '\n' ∉ line) :
    ∀ cleaned ∈ cleanLines false lines, '\n' ∉ cleaned := by
  intro cleaned hcleaned
  rcases cleanLines_cases hlines hcleaned with ⟨i, hline, -⟩ | ⟨kept, hkept, rfl⟩
  · exact hlines cleaned (List.mem_of_getElem? hline)
  · simpa [commented] using hkept

theorem preprocess_postgres (sql : String) :
    preprocess .postgres sql =
      if cleanLines false (linesFrom [] sql.toList) = linesFrom [] sql.toList then sql
      else "\n".intercalate ((cleanLines false (linesFrom [] sql.toList)).map String.ofList) := rfl

theorem splitAtChar_preprocess {sql : String}
    (h : ∃ i < (linesFrom [] sql.toList).length, Noise (linesFrom [] sql.toList) i) :
    splitAtChar '\n' (preprocess .postgres sql).toList =
      cleanLines false (linesFrom [] sql.toList) := by
  obtain ⟨i, hi, hnoise⟩ := h
  have hlines := newline_not_mem_linesFrom List.not_mem_nil sql.toList
  have hchanged : cleanLines false (linesFrom [] sql.toList) ≠ linesFrom [] sql.toList := fun heq =>
    (cleanLines_eq_iff hlines).1 heq i hi hnoise
  have hne : cleanLines false (linesFrom [] sql.toList) ≠ [] := by
    refine List.ne_nil_of_length_pos ?_
    rw [length_cleanLines]
    exact Nat.lt_of_le_of_lt (Nat.zero_le i) hi
  rw [preprocess_postgres, if_neg hchanged, String.toList_intercalate, List.map_map]
  simp only [Function.comp_def, String.toList_ofList, List.map_id']
  exact splitAtChar_intercalate hne (newline_not_mem_cleanLines hlines)

/-- What becomes of a dump. A text without noise is kept as it is. Of any other text each line
gives one line, in order: a line that is no noise stays as it is, data is commented out as it
stands, and all other noise without the blanks around it. -/
theorem preprocess_linewise (sql : String) :
    let lines := linesFrom [] sql.toList
    ((∀ i < lines.length, ¬ Noise lines i) → preprocess .postgres sql = sql) ∧
    ((∃ i < lines.length, Noise lines i) →
      let cleaned := splitAtChar '\n' (preprocess .postgres sql).toList
      cleaned.length = lines.length ∧
      ∀ i line, lines[i]? = some line →
        (¬ Noise lines i → cleaned[i]? = some line) ∧
        (InData lines i → cleaned[i]? = some ("-- ".toList ++ line)) ∧
        (Noise lines i → ¬ InData lines i →
          cleaned[i]? = some ("-- ".toList ++ trimChars line))) := by
  intro lines
  have hlines : ∀ line ∈ lines, '\n' ∉ line :=
    newline_not_mem_linesFrom List.not_mem_nil sql.toList
  constructor
  · intro hnone
    rw [preprocess_postgres, if_pos ((cleanLines_eq_iff hlines).2 hnone)]
  · intro hsome cleaned
    have hcleaned : cleaned = cleanLines false lines := splitAtChar_preprocess hsome
    rw [hcleaned]
    refine ⟨length_cleanLines false lines, fun i line hline => ⟨?_, ?_, ?_⟩⟩
    · exact cleanLines_of_not_noise hlines hline
    · exact cleanLines_of_inData hlines hline
    · exact cleanLines_of_noise hlines hline

-- a header and a command that are data, an end of data with blanks, and a block that nothing ends
example :
    preprocess .postgres "COPY t FROM stdin;\r\n copy u from stdin\n \\.\t\n \\d\nSELECT 1\r" =
      "-- COPY t FROM stdin;\n--  copy u from stdin\n--  \\.\t\n-- \\d\nSELECT 1\r" ∧
    preprocess .postgres "COPY t FROM stdin\n1\r\n\n" = "-- COPY t FROM stdin\n-- 1\n-- " := by
  decide +kernel

end Script
end SqlLineage
