import SqlLineage.Script.Segment

/-! How a script is cut. A stretch of text takes the cutter from one mode to another unless a
semicolon cuts it. A text that leaves the cutter outside all quotes and comments, or in a line
comment that the next line feed ends, becomes a piece of its own between semicolons. -/

namespace SqlLineage

namespace Text

def prependFirst (cs : List Char) : List (List Char) → List (List Char)
  | [] => [cs]
  | part :: parts => (cs ++ part) :: parts

theorem prependFirst_nil {parts : List (List Char)} (h : parts ≠ []) :
    prependFirst [] parts = parts := by
  cases parts with
  | nil => exact absurd rfl h
  | cons part parts => rfl

theorem consFirst_ne_nil (c : Char) (parts : List (List Char)) : consFirst c parts ≠ [] := by
  cases parts <;> exact List.cons_ne_nil _ _

theorem consFirst_prependFirst (c : Char) (cs : List Char) (parts : List (List Char)) :
    consFirst c (prependFirst cs parts) = prependFirst (c :: cs) parts := by
  cases parts <;> rfl

theorem prependFirst_prependFirst (cs ds : List Char) (parts : List (List Char)) :
    prependFirst cs (prependFirst ds parts) = prependFirst (cs ++ ds) parts := by
  cases parts with
  | nil => rfl
  | cons part parts => rw [prependFirst, prependFirst, prependFirst, List.append_assoc]

theorem dropEndWhile_append_of_pos {p : Char → Bool} {c : Char} (hc : p c = true)
    (cs : List Char) : dropEndWhile p (cs ++ [c]) = dropEndWhile p cs := by
  simp [dropEndWhile, hc]

theorem trimChars_cons_blank {c : Char} (hc : isBlank c = true) (cs : List Char) :
    trimChars (c :: cs) = trimChars cs := by
  rw [trimChars, trimWhile, List.dropWhile_cons_of_pos hc, trimChars, trimWhile]

theorem trimChars_append_blank {c : Char} (hc : isBlank c = true) (cs : List Char) :
    trimChars (cs ++ [c]) = trimChars cs := by
  rw [trimChars, trimChars, trimWhile, trimWhile, List.dropWhile_append]
  split
  · rename_i hempty
    rw [List.isEmpty_iff.1 hempty, List.dropWhile_cons_of_pos hc]
    rfl
  · exact dropEndWhile_append_of_pos hc _

end Text

namespace Script

variable (escapes : Bool)

/-- The mode after `cs`, with `after` to follow; nothing if a semicolon cuts `cs`. -/
def scan? (after : List Char) (mode : Mode) : List Char → Option Mode
  | [] => some mode
  | c :: cs =>
    if mode = .code && c = ';' then none
    else scan? after (mode.step escapes c (cs ++ after)) cs

theorem scan?_cons {mode : Mode} {c : Char} (h : ¬ (mode = .code ∧ c = ';'))
    (after cs : List Char) :
    scan? escapes after mode (c :: cs) =
      scan? escapes after (mode.step escapes c (cs ++ after)) cs := by
  rw [scan?, if_neg]
  simpa using h

theorem scan?_append (after : List Char) (mode : Mode) (a b : List Char) :
    scan? escapes after mode (a ++ b) =
      (scan? escapes (b ++ after) mode a).bind fun m => scan? escapes after m b := by
  induction a generalizing mode with
  | nil => rfl
  | cons c a ih =>
    rw [List.cons_append, scan?, scan?, List.append_assoc]
    split
    · rfl
    · exact ih _

theorem segments_ne_nil (mode : Mode) (cs : List Char) : segments escapes mode cs ≠ [] := by
  cases cs with
  | nil => simp [segments]
  | cons c cs =>
    rw [segments]
    split
    · exact List.cons_ne_nil _ _
    · exact Text.consFirst_ne_nil _ _

theorem segments_of_scan? {after cs : List Char} {mode mode' : Mode}
    (h : scan? escapes after mode cs = some mode') :
    segments escapes mode (cs ++ after) = Text.prependFirst cs (segments escapes mode' after) := by
  induction cs generalizing mode with
  | nil =>
    obtain rfl := Option.some.inj h
    exact (Text.prependFirst_nil (segments_ne_nil escapes mode after)).symm
  | cons c cs ih =>
    rw [scan?] at h
    split at h
    · cases h
    · rename_i hcut
      rw [List.cons_append, segments, if_neg hcut, ih h, Text.consFirst_prependFirst]

def Follows (cs : List Char) : Prop := ∀ c ∈ cs.head?, c = '\n'

theorem Follows.append {after x : List Char} (h : Follows after) (hx : Follows x) :
    Follows (after ++ x) := by
  cases after with
  | nil => exact hx
  | cons a after => exact h

def isMarkCharacter (c : Char) : Bool :=
  isTagCharacter c || c == '$' || c == '-' || c == '*' || c == '/'

def EndsMarks (x : List Char) : Prop := ∀ c ∈ x.head?, isMarkCharacter c = false

theorem EndsMarks.cases {x : List Char} (hx : EndsMarks x) :
    x = [] ∨ ∃ c y, x = c :: y ∧ isMarkCharacter c = false := by
  cases x with
  | nil => exact .inl rfl
  | cons c y => exact .inr ⟨c, y, rfl, hx c rfl⟩

theorem Follows.endsMarks {x : List Char} (hx : Follows x) : EndsMarks x := by
  intro c hc
  rw [hx c hc]
  rfl

section

variable {cs x : List Char}

theorem EndsMarks.head?_append {ch : Char} (hx : EndsMarks x) (hmark : isMarkCharacter ch = true) :
    (cs ++ x).head? = some ch ↔ cs.head? = some ch := by
  cases cs with
  | nil =>
    have hne : x.head? ≠ some ch := fun hhead => by simp [hx ch hhead] at hmark
    simpa using hne
  | cons a cs => rfl

theorem EndsMarks.head?_any_append {p : Char → Bool} (hx : EndsMarks x)
    (hp : ∀ c, isMarkCharacter c = false → p c = false) :
    (cs ++ x).head?.any p = cs.head?.any p := by
  cases cs with
  | nil =>
    obtain rfl | ⟨c, y, rfl, hc⟩ := hx.cases
    · rfl
    · simp [hp c hc]
  | cons a cs => rfl

theorem toNat_of_isTagCharacter {c : Char} (h : isTagCharacter c = true) :
    (((65 ≤ c.toNat ∧ c.toNat ≤ 90) ∨ 97 ≤ c.toNat ∧ c.toNat ≤ 122) ∨
      48 ≤ c.toNat ∧ c.toNat ≤ 57) ∨ c = '_' := by
  have hclass : (((decide (c.val ≥ 'A'.val ∧ c.val ≤ 'Z'.val) ||
      (decide (c.val ≥ 'a'.val) && decide (c.val ≤ 'z'.val))) ||
      (decide (c.val ≥ '0'.val) && decide (c.val ≤ '9'.val))) || c == '_') = true := h
  simp only [Bool.or_eq_true, Bool.and_eq_true, decide_eq_true_iff, beq_iff_eq, ge_iff_le,
    UInt32.le_iff_toNat_le] at hclass
  exact hclass

theorem isTagCharacter_of_not_mark {c : Char} (h : isMarkCharacter c = false) :
    isTagCharacter c = false := by
  simp only [isMarkCharacter, Bool.or_eq_false_iff] at h
  exact h.1.1.1.1

theorem isDigit_of_not_mark {c : Char} (h : isMarkCharacter c = false) : c.isDigit = false := by
  have htag := isTagCharacter_of_not_mark h
  simp only [isTagCharacter, Char.isAlphanum, Bool.or_eq_false_iff] at htag
  exact htag.1.2

theorem EndsMarks.takeWhile_append (hx : EndsMarks x) :
    (cs ++ x).takeWhile isTagCharacter = cs.takeWhile isTagCharacter := by
  induction cs with
  | nil =>
    obtain rfl | ⟨c, y, rfl, hc⟩ := hx.cases
    · rfl
    · simp [isTagCharacter_of_not_mark hc]
  | cons a cs ih => simp only [List.cons_append, List.takeWhile_cons, ih]

theorem EndsMarks.head?_dropWhile_append (hx : EndsMarks x) :
    ((cs ++ x).dropWhile isTagCharacter).head? = some '$' ↔
      (cs.dropWhile isTagCharacter).head? = some '$' := by
  induction cs with
  | nil =>
    obtain rfl | ⟨c, y, rfl, hc⟩ := hx.cases
    · rfl
    · have hdollar : c ≠ '$' := by rintro rfl; cases hc
      rw [List.nil_append,
        List.dropWhile_cons_of_neg (by simp [isTagCharacter_of_not_mark hc])]
      simpa using hdollar
  | cons a cs ih =>
    rw [List.cons_append, List.dropWhile_cons, List.dropWhile_cons]
    split
    · exact ih
    · rfl

theorem EndsMarks.tagAfter?_append (hx : EndsMarks x) : tagAfter? (cs ++ x) = tagAfter? cs := by
  simp only [tagAfter?, hx.head?_any_append fun _ => isDigit_of_not_mark,
    hx.head?_dropWhile_append, hx.takeWhile_append]

theorem EndsMarks.codeStep_append {ch : Char} (hx : EndsMarks x) :
    codeStep ch (cs ++ x) = codeStep ch cs := by
  simp only [codeStep, hx.head?_append (rfl : isMarkCharacter '-' = true),
    hx.head?_append (rfl : isMarkCharacter '*' = true), hx.tagAfter?_append]

end

/-- Outside quotes and comments, or in a line comment that ends here. -/
def Ready (mode : Mode) (after : List Char) : Prop :=
  mode = .code ∨ mode = .lineComment ∧ Follows after

/-- The text opens nothing that it leaves open, but for a last line comment, and no semicolon
cuts it. -/
def Crosses (cs after : List Char) : Prop :=
  ∀ mode x, Follows x → Ready mode (cs ++ after ++ x) →
    ∃ mode', scan? escapes (after ++ x) mode cs = some mode' ∧ Ready mode' (after ++ x)

variable {escapes}

theorem Ready.step_newline {mode : Mode} {after : List Char} (h : Ready mode after)
    (rest : List Char) : mode.step escapes '\n' rest = .code := by
  obtain rfl | ⟨rfl, -⟩ := h
  · simp [Mode.step, codeStep]
  · simp [Mode.step]

theorem Ready.scan?_eq {mode : Mode} {cs after : List Char} (h : Ready mode (cs ++ after))
    (hne : cs ≠ []) : scan? escapes after mode cs = scan? escapes after .code cs := by
  obtain rfl | ⟨rfl, hfollows⟩ := h
  · rfl
  · obtain ⟨c, cs, rfl⟩ := List.exists_cons_of_ne_nil hne
    -- The line feed that ends the comment means nothing outside one.
    obtain rfl : c = '\n' := hfollows c rfl
    have hready : Ready .code [] := .inl rfl
    rw [scan?_cons escapes (by simp), scan?_cons escapes (by simp), hready.step_newline]
    simp [Mode.step]

theorem crosses_nil (after : List Char) : Crosses escapes [] after :=
  fun mode _ _ hready => ⟨mode, rfl, hready⟩

theorem Crosses.append {u v after : List Char} (hu : Crosses escapes u (v ++ after))
    (hv : Crosses escapes v after) : Crosses escapes (u ++ v) after := by
  intro mode x hx hready
  rw [List.append_assoc u v after] at hready
  obtain ⟨mode₁, hscan₁, hready₁⟩ := hu mode x hx hready
  obtain ⟨mode₂, hscan₂, hready₂⟩ := hv mode₁ x hx hready₁
  rw [List.append_assoc] at hscan₁
  exact ⟨mode₂, by rw [scan?_append, hscan₁, Option.bind_some, hscan₂], hready₂⟩

theorem crosses_of_code {cs after : List Char} (hne : cs ≠ [])
    (h : ∀ x, Follows x →
      ∃ mode, scan? escapes (after ++ x) .code cs = some mode ∧ Ready mode (after ++ x)) :
    Crosses escapes cs after := by
  intro mode x hx hready
  rw [List.append_assoc] at hready
  obtain ⟨mode', hscan, hready'⟩ := h x hx
  exact ⟨mode', (hready.scan?_eq hne).trans hscan, hready'⟩

theorem Crosses.segments_eq {cs : List Char} (h : Crosses escapes cs []) :
    segments escapes .code cs = [cs] := by
  obtain ⟨mode, hscan, -⟩ := h .code [] nofun (.inl rfl)
  have hsegments := segments_of_scan? escapes hscan
  simpa [segments, Text.prependFirst] using hsegments

theorem Crosses.segments_append {cs : List Char} (h : Crosses escapes cs []) (rest : List Char) :
    segments escapes .code (cs ++ '\n' :: ';' :: rest) =
      (cs ++ ['\n']) :: segments escapes .code rest := by
  obtain ⟨mode, hscan, hready⟩ := h .code ('\n' :: ';' :: rest) (by simp [Follows]) (.inl rfl)
  have hcut : ¬ (mode = .code && '\n' = ';') = true := by simp
  rw [List.nil_append] at hscan
  rw [segments_of_scan? escapes hscan, segments, if_neg hcut, hready.step_newline, segments,
    if_pos (by simp)]
  rfl

theorem pieces_newline (cs : List Char) :
    (segments escapes .code ('\n' :: cs)).filterMap piece? =
      (segments escapes .code cs).filterMap piece? := by
  have hcut : ¬ ((Mode.code = .code) && '\n' = ';') = true := by simp
  have hready : Ready .code [] := .inl rfl
  rw [segments, if_neg hcut, hready.step_newline]
  cases hparts : segments escapes .code cs with
  | nil => exact absurd hparts (segments_ne_nil escapes .code cs)
  | cons part parts =>
    have hpiece : piece? ('\n' :: part) = piece? part := by
      rw [piece?, piece?, Text.trimChars_cons_blank (by decide)]
    rw [Text.consFirst, List.filterMap_cons, List.filterMap_cons, hpiece]

theorem piece?_newline (cs : List Char) : piece? (cs ++ ['\n']) = piece? cs := by
  rw [piece?, piece?, Text.trimChars_append_blank (by decide)]

theorem piece?_of_trim_eq {s : String} (h : Text.trim s = "") : piece? s.toList = none := by
  have hnil : Text.trimChars s.toList = [] := by
    simpa [Text.trim] using congrArg String.toList h
  rw [piece?, hnil]

theorem piece?_of_trim_ne {s : String} (h : Text.trim s ≠ "") :
    piece? s.toList = some (Text.trim s) := by
  rw [piece?]
  split
  · rename_i hempty
    exact absurd (by rw [Text.trim, hempty]) h
  · rfl

theorem filterMap_piece?_of_trim_ne {texts : List String} (h : ∀ t ∈ texts, Text.trim t ≠ "") :
    (texts.filterMap fun t => piece? t.toList) = texts.map Text.trim := by
  induction texts with
  | nil => rfl
  | cons t texts ih =>
    obtain ⟨ht, htexts⟩ := List.forall_mem_cons.1 h
    rw [List.filterMap_cons, piece?_of_trim_ne ht, ih htexts, List.map_cons]

/-- Texts that the cutter crosses are the pieces of their script, as far as they are not blank. -/
theorem split_join {texts : List String} (hcrosses : ∀ t ∈ texts, Crosses escapes t.toList []) :
    split escapes ("\n;\n".intercalate texts) = texts.filterMap fun t => piece? t.toList := by
  rw [split, String.toList_intercalate]
  induction texts with
  | nil => rfl
  | cons t texts ih =>
    have hcut := hcrosses t List.mem_cons_self
    cases texts with
    | nil => simp [List.intercalate, hcut.segments_eq, List.filterMap_cons]
    | cons u texts =>
      have ih := ih fun s hs => hcrosses s (List.mem_cons_of_mem t hs)
      have hjoin : List.intercalate "\n;\n".toList (List.map String.toList (t :: u :: texts)) =
          t.toList ++ '\n' :: ';' :: '\n' ::
            List.intercalate "\n;\n".toList (List.map String.toList (u :: texts)) := by
        simp [List.intercalate]
      rw [hjoin, hcut.segments_append, List.filterMap_cons, piece?_newline, pieces_newline, ih]
      rfl

end Script
end SqlLineage
