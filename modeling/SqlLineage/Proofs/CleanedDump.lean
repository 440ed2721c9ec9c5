import SqlLineage.Proofs.Dump

/-! Cleaning a dump again changes nothing. The second pass reads other lines than the first: some
are comments now, a carriage return may be gone, and so may an empty line at the end. But whether a
line is noise hangs on what is left of it without the blanks around it, as long as no block of data
is open, and of the lines that the first pass leaves none opens one. -/

namespace SqlLineage

namespace Text

theorem trimChars_dropReturn (line : List Char) : trimChars (dropReturn line) = trimChars line := by
  unfold dropReturn
  split
  · rename_i hlast
    obtain ⟨front, rfl⟩ := List.getLast?_eq_some_iff.1 hlast
    rw [List.dropLast_concat]
    exact (trimChars_append_blank rfl front).symm
  · rfl

theorem splitAtChar_reverse {separator : Char} {cs : List Char} (h : separator ∉ cs) :
    splitAtChar separator cs.reverse = [cs.reverse] :=
  splitAtChar_of_not_mem fun hmem => h (List.mem_reverse.1 hmem)

theorem exists_part_of_mem_linesFrom {start cs line : List Char} (hstart : '\n' ∉ start)
    (h : line ∈ linesFrom start cs) :
    ∃ part ∈ splitAtChar '\n' (start.reverse ++ cs), trimChars line = trimChars part := by
  induction cs generalizing start with
  | nil =>
    rw [linesFrom] at h
    split at h
    · cases h
    · obtain rfl := List.mem_singleton.1 h
      rw [List.append_nil, splitAtChar_reverse hstart]
      exact ⟨start.reverse, List.mem_cons_self, rfl⟩
  | cons c cs ih =>
    rw [linesFrom] at h
    split at h
    · rename_i hc
      rw [hc, splitAtChar_append, splitAtChar_reverse hstart]
      rcases List.mem_cons.1 h with rfl | h
      · exact ⟨start.reverse, List.mem_cons_self, trimChars_dropReturn _⟩
      · obtain ⟨part, hmem, htrim⟩ := ih List.not_mem_nil h
        exact ⟨part, List.mem_append_right _ hmem, htrim⟩
    · rename_i hc
      have hstart' : '\n' ∉ c :: start := fun hmem =>
        (List.mem_cons.1 hmem).elim (fun heq => hc heq.symm) hstart
      obtain ⟨part, hmem, htrim⟩ := ih hstart' h
      rw [List.reverse_cons, List.append_assoc, List.singleton_append] at hmem
      exact ⟨part, hmem, htrim⟩

end Text

namespace Script

open Text

variable {lines : List (List Char)}

/-- Outside of data the line is no noise. -/
structure PlainLine (line : List Char) : Prop where
  noHeader : ¬ HeadsData (trimChars line)
  noCommand : (trimChars line).head? ≠ some '\\'
  noSchema : ¬ ChangesSchema (trimChars line)

theorem PlainLine.congr {line line' : List Char} (h : PlainLine line)
    (htrim : trimChars line' = trimChars line) : PlainLine line' := by
  obtain ⟨hheader, hcommand, hschema⟩ := h
  rw [← htrim] at hheader hcommand hschema
  exact ⟨hheader, hcommand, hschema⟩

theorem plainLine_of_not_noise {i : Nat} {line : List Char} (hline : lines[i]? = some line)
    (h : ¬ Noise lines i) : PlainLine line := by
  have hdata : ¬ InData lines i := fun hin => h (.inr (.inl hin))
  exact ⟨fun hp => h (.inl ⟨hdata, line, hline, hp⟩),
    fun hp => h (.inr (.inr (.inl ⟨line, hline, hp⟩))),
    fun hp => h (.inr (.inr (.inr ⟨line, hline, hp⟩)))⟩

theorem plainLine_commented {cs : List Char} (hcs : '\n' ∉ cs) : PlainLine (commented cs) := by
  have hhead := trimChars_commented_head cs
  have hplain := trimChars_startsPlain (commented cs)
  have hline : '\n' ∉ trimChars (commented cs) := fun hmem =>
    hcs (by simpa [commented] using mem_of_mem_trimChars hmem)
  cases htrim : trimChars (commented cs) with
  | nil =>
    rw [htrim] at hhead
    cases hhead
  | cons c rest =>
    rw [htrim] at hhead hplain hline
    obtain rfl : c = '-' := Option.some.inj hhead
    refine ⟨?_, ?_, ?_⟩
    · rw [htrim, ← startsData_iff hplain hline]
      exact Bool.false_ne_true
    · rw [htrim, hhead]
      decide
    · rw [htrim, ← isSchemaChange_iff hplain]
      exact Bool.false_ne_true

/-- Where no line is noise of itself there is no data either, since nothing opens a block of it. -/
theorem not_noise_of_plainLines (h : ∀ line ∈ lines, PlainLine line) (i : Nat) :
    ¬ Noise lines i := by
  have hdata : ¬ InData lines i := by
    rw [InData]
    rintro ⟨j, -, ⟨line, hline, hheads⟩, -⟩
    exact (h line (List.mem_of_getElem? hline)).noHeader hheads
  rintro (⟨-, line, hline, hp⟩ | hin | ⟨line, hline, hp⟩ | ⟨line, hline, hp⟩)
  · exact (h line (List.mem_of_getElem? hline)).noHeader hp
  · exact hdata hin
  · exact (h line (List.mem_of_getElem? hline)).noCommand hp
  · exact (h line (List.mem_of_getElem? hline)).noSchema hp

theorem plainLine_of_mem_cleanLines (hlines : ∀ line ∈ lines, '\n' ∉ line) {cleaned : List Char}
    (h : cleaned ∈ cleanLines false lines) : PlainLine cleaned := by
  rcases cleanLines_cases hlines h with ⟨i, hline, hnoise⟩ | ⟨kept, hkept, rfl⟩
  · exact plainLine_of_not_noise hline hnoise
  · exact plainLine_commented hkept

theorem preprocess_of_not_noise {sql : String}
    (h : ∀ i < (linesFrom [] sql.toList).length, ¬ Noise (linesFrom [] sql.toList) i) :
    preprocess .postgres sql = sql := by
  have hlines := newline_not_mem_linesFrom List.not_mem_nil sql.toList
  rw [preprocess_postgres, if_pos ((cleanLines_eq_iff hlines).2 h)]

theorem plainLine_of_mem_preprocess {sql : String} {line : List Char}
    (h : line ∈ linesFrom [] (preprocess .postgres sql).toList) : PlainLine line := by
  by_cases hnoise : ∃ i < (linesFrom [] sql.toList).length, Noise (linesFrom [] sql.toList) i
  · obtain ⟨part, hpart, htrim⟩ := exists_part_of_mem_linesFrom List.not_mem_nil h
    have hcleaned : part ∈ cleanLines false (linesFrom [] sql.toList) := by
      rw [← splitAtChar_preprocess hnoise]
      exact hpart
    exact (plainLine_of_mem_cleanLines (newline_not_mem_linesFrom List.not_mem_nil sql.toList)
      hcleaned).congr htrim
  · have hnone : ∀ i < (linesFrom [] sql.toList).length, ¬ Noise (linesFrom [] sql.toList) i :=
      fun i hi hi' => hnoise ⟨i, hi, hi'⟩
    rw [preprocess_of_not_noise hnone] at h
    obtain ⟨i, hi⟩ := List.mem_iff_getElem?.1 h
    exact plainLine_of_not_noise hi (hnone i (List.getElem?_eq_some_iff.1 hi).1)

/-- A cleaned dump is clean: cleaning it once more gives the same text. The texts that cleaning
leaves alone are just those without noise. -/
theorem preprocess_idempotent (sql : String) :
    preprocess .postgres (preprocess .postgres sql) = preprocess .postgres sql ∧
    (preprocess .postgres sql = sql ↔
      ∀ i < (linesFrom [] sql.toList).length, ¬ Noise (linesFrom [] sql.toList) i) := by
  have hclean : ∀ i, ¬ Noise (linesFrom [] (preprocess .postgres sql).toList) i :=
    not_noise_of_plainLines fun _ => plainLine_of_mem_preprocess
  refine ⟨preprocess_of_not_noise fun i _ => hclean i, fun hsame i _ => ?_, preprocess_of_not_noise⟩
  rw [hsame] at hclean
  exact hclean i

end Script
end SqlLineage
