import SqlLineage.Proofs.QuotedText

/-! Texts that close what they open. `Closed` says so without the cutter: such a text is a row of
plain characters and of stretches from an opening mark to the mark that closes it. The cutter
stands outside quotes and comments after just these texts, and it reads a text alike alone and in
front of anything that continues no mark. -/

namespace SqlLineage.Script
open Sql

def IsTagWord (word : List Char) : Prop :=
  word.all isTagCharacter = true ∧ word.head?.any Char.isDigit = false

/-- The marks after which a semicolon does not cut, each with the mode it leads to. -/
inductive Opening : List Char → Mode → Prop
  | quote {q : Char} : isQuote q = true → Opening [q] (.quoted q)
  | dashes : Opening ['-', '-'] .lineComment
  | slashStar : Opening ['/', '*'] .blockComment
  | tag {word : List Char} : IsTagWord word →
      Opening ('$' :: word ++ ['$']) (.dollar ('$' :: word ++ ['$']))

/-- The text that follows an opening mark up to the first mark that closes it. -/
inductive Closes (escapes : Bool) : Mode → List Char → Prop
  | quoted {q : Char} {w : List Char} : Quoted escapes q w → Closes escapes (.quoted q) w
  | lineComment {w : List Char} : UpTo ['\n'] w → Closes escapes .lineComment w
  | blockComment {w : List Char} : UpTo ['*', '/'] w → Closes escapes .blockComment w
  | dollar {tag w : List Char} : UpTo tag w → Closes escapes (.dollar tag) w

/-- Everything that the text opens it also closes, a line comment by its line feed. -/
inductive Closed (escapes : Bool) : List Char → Prop
  | nil : Closed escapes []
  | plain {c : Char} {cs : List Char} : (∀ mark mode, Opening mark mode → ¬ mark <+: c :: cs) →
      Closed escapes cs → Closed escapes (c :: cs)
  | enclosed {mark w cs : List Char} {mode : Mode} : Opening mark mode → Closes escapes mode w →
      Closed escapes cs → Closed escapes (mark ++ (w ++ cs))

def Mode.run (escapes : Bool) (mode : Mode) : List Char → Mode
  | [] => mode
  | c :: cs => (mode.step escapes c cs).run escapes cs

variable {e : Bool} {mode mode' : Mode} {c : Char} {cs x w mark : List Char}

theorem run_of_scan? (h : scan? e x mode cs = some mode') :
    mode.run e (cs ++ x) = mode'.run e x := by
  induction cs generalizing mode with
  | nil =>
    obtain rfl := Option.some.inj h
    rfl
  | cons c cs ih =>
    rw [scan?] at h
    split at h
    · cases h
    · exact ih h

/-! ### What a text opens -/

theorem tagAfter?_eq_some {tag : List Char} (h : tagAfter? cs = some tag) :
    ∃ word rest, IsTagWord word ∧ tag = '$' :: word ++ ['$'] ∧ cs = word ++ '$' :: rest := by
  unfold tagAfter? at h
  split at h
  · cases h
  · rename_i hdigit
    split at h
    · rename_i hdollar
      obtain ⟨rest, hrest⟩ := List.head?_eq_some_iff.1 hdollar
      have hsplit : cs = cs.takeWhile isTagCharacter ++ '$' :: rest := by
        rw [← hrest, List.takeWhile_append_dropWhile]
      refine ⟨cs.takeWhile isTagCharacter, rest, ⟨List.all_takeWhile, ?_⟩,
        (Option.some.inj h).symm, hsplit⟩
      cases hword : cs.takeWhile isTagCharacter with
      | nil => rfl
      | cons a word =>
        rw [hsplit, hword] at hdigit
        simpa using hdigit
    · cases h

theorem codeStep_eq_code (h : ∀ mark mode, Opening mark mode → ¬ mark <+: c :: cs) :
    codeStep c cs = .code := by
  unfold codeStep
  split
  · rename_i hquote
    exact absurd ⟨cs, rfl⟩ (h [c] _ (.quote (by simpa [isQuote] using hquote)))
  split
  · rename_i hdashes
    rw [Bool.and_eq_true, decide_eq_true_iff, decide_eq_true_iff] at hdashes
    obtain ⟨rfl, hhead⟩ := hdashes
    obtain ⟨rest, rfl⟩ := List.head?_eq_some_iff.1 hhead
    exact absurd ⟨rest, rfl⟩ (h _ _ .dashes)
  split
  · rename_i hslash
    rw [Bool.and_eq_true, decide_eq_true_iff, decide_eq_true_iff] at hslash
    obtain ⟨rfl, hhead⟩ := hslash
    obtain ⟨rest, rfl⟩ := List.head?_eq_some_iff.1 hhead
    exact absurd ⟨rest, rfl⟩ (h _ _ .slashStar)
  split
  · rename_i hdollar
    subst hdollar
    split
    · rename_i tag htag
      obtain ⟨word, rest, hword, -, rfl⟩ := tagAfter?_eq_some htag
      exact absurd ⟨rest, by simp⟩ (h _ _ (.tag hword))
    · rfl
  · rfl

theorem Opening.scan? (h : Opening mark mode) : Script.scan? e x .code mark = some mode := by
  cases h with
  | quote hq => rw [scan?_open hq]; rfl
  | dashes => rfl
  | slashStar => rfl
  | tag hword => exact scan?_tag hword.1 hword.2

/-! ### What closes it -/

theorem Opening.scan?_closes (h : Opening mark mode) (hw : Closes e mode w) :
    Script.scan? e x mode w = some .code := by
  cases hw with
  | quoted hw =>
    obtain hq | - | - | - := h
    exact hw.scan? hq (.inl rfl)
  | lineComment hw => exact hw.scan? (by simp) seeks_lineComment
  | blockComment hw => exact hw.scan? (by simp) seeks_blockComment
  | dollar hw =>
    cases h with
    | tag => exact hw.scan? (by simp) (seeks_dollar _)

theorem exists_quoted_of_run (q : Char) (cs : List Char) :
    (Mode.run e (.quoted q) cs = .code →
      ∃ w rest, cs = w ++ rest ∧ Quoted e q w ∧ Mode.run e .code rest = .code) ∧
    (Mode.run e (.escaped q) cs = .code →
      ∃ c w rest, cs = c :: (w ++ rest) ∧ Quoted e q w ∧ Mode.run e .code rest = .code) := by
  induction cs with
  | nil => exact ⟨nofun, nofun⟩
  | cons c cs ih =>
    refine ⟨fun h => ?_, fun h => ?_⟩
    · rw [Mode.run, Mode.step, quotedStep] at h
      split at h
      · rename_i hescape
        rw [Bool.and_eq_true, beq_iff_eq] at hescape
        obtain ⟨he, rfl⟩ := hescape
        obtain ⟨c, w, rest, rfl, hw, hrest⟩ := ih.2 h
        exact ⟨'\\' :: c :: w, rest, rfl, .escape he hw, hrest⟩
      · rename_i hplain
        split at h
        · rename_i hq
          exact ⟨[c], cs, rfl, hq ▸ .close, h⟩
        · rename_i hq
          obtain ⟨w, rest, rfl, hw, hrest⟩ := ih.1 h
          have hback : e = true → c ≠ '\\' := by
            rintro rfl rfl
            exact hplain rfl
          exact ⟨c :: w, rest, rfl, .char hq hback hw, hrest⟩
    · obtain ⟨w, rest, rfl, hw, hrest⟩ := ih.1 h
      exact ⟨c, w, rest, rfl, hw, hrest⟩

theorem exists_upTo_of_run (hseeks : Seeks e mode mark) (hmark : mark ≠ [])
    (h : mode.run e cs = .code) :
    ∃ w rest, cs = w ++ rest ∧ UpTo mark w ∧ Mode.run e .code rest = .code := by
  induction cs with
  | nil => exact absurd h hseeks.1
  | cons c cs ih =>
    rw [Mode.run, hseeks.2] at h
    split at h
    · rename_i hstart
      obtain ⟨d, tail, rfl⟩ := List.exists_cons_of_ne_nil hmark
      obtain ⟨rest, hrest⟩ := List.isPrefixOf_iff_prefix.1 hstart
      obtain ⟨rfl, rfl⟩ := List.cons.inj hrest
      -- the rest of the mark is counted down before the cutter looks at characters again
      have hrun := run_of_scan? (scan?_after (e := e) (x := rest) (w := tail) .code)
      exact ⟨d :: tail, rest, rfl, .here, hrun ▸ h⟩
    · rename_i hstart
      obtain ⟨w, rest, rfl, hw, hrest⟩ := ih h
      have hnot : ¬ mark <+: c :: w := fun hmark =>
        hstart (List.isPrefixOf_iff_prefix.2 (hmark.trans (List.prefix_append (c :: w) rest)))
      exact ⟨c :: w, rest, rfl, .later hnot hw, hrest⟩

theorem Opening.exists_closes (h : Opening mark mode) (hrun : mode.run e cs = .code) :
    ∃ w rest, cs = w ++ rest ∧ Closes e mode w ∧ Mode.run e .code rest = .code := by
  cases h with
  | @quote q hq =>
    obtain ⟨w, rest, hcs, hw, hrest⟩ := (exists_quoted_of_run q cs).1 hrun
    exact ⟨w, rest, hcs, .quoted hw, hrest⟩
  | dashes =>
    obtain ⟨w, rest, hcs, hw, hrest⟩ := exists_upTo_of_run seeks_lineComment (by simp) hrun
    exact ⟨w, rest, hcs, .lineComment hw, hrest⟩
  | slashStar =>
    obtain ⟨w, rest, hcs, hw, hrest⟩ := exists_upTo_of_run seeks_blockComment (by simp) hrun
    exact ⟨w, rest, hcs, .blockComment hw, hrest⟩
  | tag _ =>
    obtain ⟨w, rest, hcs, hw, hrest⟩ := exists_upTo_of_run (seeks_dollar _) (by simp) hrun
    exact ⟨w, rest, hcs, .dollar hw, hrest⟩

theorem Closed.run (h : Closed e cs) : Mode.run e .code cs = .code := by
  induction h with
  | nil => rfl
  | plain hopens _ ih => rw [Mode.run, Mode.step, codeStep_eq_code hopens, ih]
  | enclosed hopening hcloses _ ih =>
    rw [run_of_scan? hopening.scan?, run_of_scan? (hopening.scan?_closes hcloses), ih]

theorem closed_of_run (h : Mode.run e .code cs = .code) : Closed e cs := by
  induction hn : cs.length using Nat.strongRecOn generalizing cs with
  | ind n ih =>
    subst hn
    by_cases hopens : ∃ mark mode, Opening mark mode ∧ mark <+: cs
    · obtain ⟨mark, mode, hopening, rest, rfl⟩ := hopens
      rw [run_of_scan? hopening.scan?] at h
      obtain ⟨w, rest, rfl, hcloses, hrest⟩ := hopening.exists_closes h
      have hpos : 0 < mark.length := by cases hopening <;> simp
      refine .enclosed hopening hcloses (ih rest.length ?_ hrest rfl)
      simp only [List.length_append]
      omega
    · cases cs with
      | nil => exact .nil
      | cons c cs =>
        have hplain : ∀ mark mode, Opening mark mode → ¬ mark <+: c :: cs :=
          fun mark mode hopening hstarts => hopens ⟨mark, mode, hopening, hstarts⟩
        rw [Mode.run, Mode.step, codeStep_eq_code hplain] at h
        exact .plain hplain (ih cs.length (by simp) h rfl)

theorem closed_iff_run (cs : List Char) : Closed e cs ↔ Mode.run e .code cs = .code :=
  ⟨Closed.run, closed_of_run⟩

/-! ### What follows a text -/

/-- The tags that the mode waits for are made of the characters of marks. -/
def Mode.WellTagged : Mode → Prop
  | .dollar tag => ∀ c ∈ tag, isMarkCharacter c = true
  | .mark _ next => next.WellTagged
  | _ => True

theorem Mode.WellTagged.after (h : mode.WellTagged) (n : Nat) :
    (Mode.after n mode).WellTagged := by
  cases n <;> exact h

theorem IsTagWord.isMarkCharacter {word : List Char} (h : IsTagWord word) :
    ∀ c ∈ '$' :: word ++ ['$'], isMarkCharacter c = true := by
  intro c hc
  have hcases : c = '$' ∨ c ∈ word := by simpa [or_comm, or_left_comm] using hc
  obtain rfl | hword := hcases
  · rfl
  · simp [Script.isMarkCharacter, List.all_eq_true.1 h.1 c hword]

theorem wellTagged_codeStep (c : Char) (cs : List Char) : (codeStep c cs).WellTagged := by
  unfold codeStep
  split
  · trivial
  split
  · trivial
  split
  · trivial
  split
  · split
    · rename_i tag htag
      obtain ⟨word, -, hword, rfl, -⟩ := tagAfter?_eq_some htag
      have hdollar : (Mode.dollar ('$' :: word ++ ['$'])).WellTagged := hword.isMarkCharacter
      exact hdollar.after _
    · trivial
  · trivial

theorem Mode.WellTagged.step (h : mode.WellTagged) (c : Char) (cs : List Char) :
    (mode.step e c cs).WellTagged := by
  cases mode with
  | code => exact wellTagged_codeStep c cs
  | quoted q =>
    rw [Mode.step, quotedStep]
    split
    · trivial
    · split <;> trivial
  | escaped q => trivial
  | lineComment =>
    rw [Mode.step]
    split <;> trivial
  | blockComment =>
    rw [Mode.step]
    split <;> trivial
  | dollar tag =>
    rw [Mode.step]
    split
    · have hcode : Mode.code.WellTagged := trivial
      exact hcode.after _
    · exact h
  | mark n next => cases n <;> exact h

theorem EndsMarks.isPrefixOf_append {tag : List Char} (hx : EndsMarks x)
    (htag : ∀ c ∈ tag, isMarkCharacter c = true) (cs : List Char) :
    tag.isPrefixOf (cs ++ x) = tag.isPrefixOf cs := by
  induction tag generalizing cs with
  | nil => simp
  | cons t tag ih =>
    cases cs with
    | nil =>
      obtain rfl | ⟨c, y, rfl, hc⟩ := hx.cases
      · rfl
      · have hne : t ≠ c := by
          rintro rfl
          rw [htag t List.mem_cons_self] at hc
          cases hc
        simp [List.isPrefixOf_cons_cons, hne]
    | cons a cs =>
      have htail := ih (fun c hc => htag c (List.mem_cons_of_mem t hc)) cs
      rw [List.cons_append, List.isPrefixOf_cons_cons, List.isPrefixOf_cons_cons, htail]

theorem Mode.WellTagged.step_append (h : mode.WellTagged) (hx : EndsMarks x) (c : Char)
    (cs : List Char) : mode.step e c (cs ++ x) = mode.step e c cs := by
  cases mode with
  | code => exact hx.codeStep_append
  | blockComment =>
    simp only [Mode.step, hx.head?_append (rfl : isMarkCharacter '/' = true)]
  | dollar tag =>
    have hstart := hx.isPrefixOf_append h (c :: cs)
    rw [List.cons_append] at hstart
    rw [Mode.step, Mode.step, hstart]
  | mark n next => cases n <;> rfl
  | _ => rfl

theorem Mode.WellTagged.scan?_eq (h : mode.WellTagged) (hx : EndsMarks x) (cs : List Char) :
    scan? e x mode cs = scan? e [] mode cs := by
  induction cs generalizing mode with
  | nil => rfl
  | cons c cs ih =>
    rw [scan?, scan?, h.step_append hx, List.append_nil, ih (h.step c cs)]

theorem Mode.WellTagged.run_append (h : mode.WellTagged) (hx : EndsMarks x) (cs : List Char) :
    mode.run e (cs ++ x) = (mode.run e cs).run e x := by
  induction cs generalizing mode with
  | nil => rfl
  | cons c cs ih =>
    rw [List.cons_append, Mode.run, Mode.run, h.step_append hx, ih (h.step c cs)]

end SqlLineage.Script
