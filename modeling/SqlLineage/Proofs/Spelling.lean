import SqlLineage.Proofs.QuotedText

/-! The spelling of a token: the characters that the lexer read for it. A spelling is shared if
the cutter sees in it what the lexer sees. Words, numbers and operators are bare: they are shared
if no character of theirs means anything to the cutter. -/

namespace SqlLineage.Sql
open Script

/-- No character is a semicolon or opens anything for the cutter. -/
def inert (after : List Char) : List Char → Bool
  | [] => true
  | c :: cs => c != ';' && codeStep c (cs ++ after) == .code && inert after cs

def StringForm.quote : StringForm → Char
  | double | tripleDouble | byteDouble | byteTripleDouble | rawDouble | rawTripleDouble => '"'
  | _ => '\''

def StringForm.isTriple : StringForm → Bool
  | tripleSingle | tripleDouble | byteTripleSingle | byteTripleDouble | rawTripleSingle
  | rawTripleDouble => true
  | _ => false

def StringForm.escapes (d : Dialect) : StringForm → Bool
  | single | double | tripleSingle | tripleDouble => d.backslashInStrings
  | national | escaped | hex => true
  | _ => false

/-- The cutter sees what the lexer sees in a token with spelling `w` before `after`. -/
def Token.Shared (d : Dialect) (w after : List Char) : Token → Prop
  | .text form _ =>
    SameEscapes d.backslashEscapes (form.escapes d) form.quote w ∧
      (form.isTriple = true → w.count form.quote = 6)
  | .word _ _ (some q) =>
    if q = '[' then inert after w = true else SameEscapes d.backslashEscapes false q w
  | .dollarText tag _ =>
    ∀ t ∈ tag, t.toList.all isTagCharacter = true ∧ t.toList.head?.any Char.isDigit = false
  | .lineComment opening _ =>
    if opening = "--" then
      d.commentEndsAtReturn = true → w.getLast? = some '\n' ∨ Follows after
    else inert after w = true
  | .blockComment body => d.nestedComments = true → ¬ ['*', '/'] <:+: body.toList
  | _ => inert after w = true

instance (cs : List Char) : Decidable (Follows cs) :=
  inferInstanceAs (Decidable (∀ c ∈ cs.head?, c = '\n'))

instance (d : Dialect) (w after : List Char) : (t : Token) → Decidable (t.Shared d w after)
  | .text .. => inferInstanceAs (Decidable (_ ∧ _))
  | .word _ _ (some q) => inferInstanceAs (Decidable (if q = '[' then _ = true else _))
  | .lineComment opening _ =>
    inferInstanceAs (Decidable (if opening = "--" then _ → _ ∨ _ else _ = true))
  | .dollarText tag _ => inferInstanceAs (Decidable (∀ t ∈ tag, _ ∧ _))
  | .blockComment _ => inferInstanceAs (Decidable (_ → _))
  | .word _ _ none | .number .. | .symbol _ | .customOperator _ | .placeholder _ | .space | .tab
  | .newline => inferInstanceAs (Decidable (_ = true))

/-- What was read from the cursor is not empty, and the cutter crosses it if it is shared. -/
def Agrees (d : Dialect) (c : Cursor) (r : Scanned Token) : Prop :=
  ∃ w, w ≠ [] ∧ c.rest = w ++ r.2.rest ∧
    (r.1.Shared d w r.2.rest → Crosses d.backslashEscapes w r.2.rest)

variable {e b : Bool} {q ch : Char} {x w after cs tail body : List Char} {d : Dialect}
  {c c' : Cursor} {r : Scanned Token}

/-! ### Bare tokens -/

theorem scan?_inert (h : inert after w = true) (hx : Follows x) :
    scan? e (after ++ x) .code w = some .code := by
  induction w with
  | nil => rfl
  | cons ch w ih =>
    simp only [inert, Bool.and_eq_true, bne_iff_ne, beq_iff_eq] at h
    obtain ⟨⟨hcut, hstep⟩, hrest⟩ := h
    rw [scan?_cons e (fun h => hcut h.2), Mode.step, ← List.append_assoc,
      hx.endsMarks.codeStep_append, hstep]
    exact ih hrest

theorem crosses_of_inert (h : inert after w = true) : Crosses e w after := by
  cases w with
  | nil => exact crosses_nil after
  | cons a w =>
    exact crosses_of_code (List.cons_ne_nil a w) fun x hx => ⟨.code, scan?_inert h hx, .inl rfl⟩

/-- The scanner left an end of `cs`, and its token is shared only if the spelling is inert. -/
structure Bare (d : Dialect) (cs : List Char) (r : Scanned Token) : Prop where
  suffix : r.2.rest <:+ cs
  inert : ∀ w, r.1.Shared d w r.2.rest → inert r.2.rest w = true

theorem Bare.mono {cs' : List Char} (h : Bare d cs r) (hcs : cs <:+ cs') : Bare d cs' r :=
  ⟨h.suffix.trans hcs, h.inert⟩

theorem Bare.agrees (h : Bare d tail r) (hc : c.rest = ch :: tail) : Agrees d c r := by
  obtain ⟨⟨w, rfl⟩, hinert⟩ := h
  exact ⟨ch :: w, List.cons_ne_nil ch w, hc, fun hshared => crosses_of_inert (hinert _ hshared)⟩

namespace Cursor

theorem span_append (c : Cursor) (p : Char → Bool) :
    (c.span p).1 ++ (c.span p).2.rest = c.rest := by
  obtain ⟨place, rest⟩ := c
  induction rest generalizing place with
  | nil => rfl
  | cons a rest ih =>
    unfold Cursor.span spanFrom
    split
    · exact congrArg (a :: ·) (ih (place.after a))
    · rfl

theorem span_suffix (c : Cursor) (p : Char → Bool) : (c.span p).2.rest <:+ c.rest :=
  ⟨_, c.span_append p⟩

theorem next_suffix (c : Cursor) : c.next.rest <:+ c.rest := c.next_rest ▸ List.tail_suffix c.rest

theorem skip_suffix (n : Nat) (c : Cursor) : (c.skip n).rest <:+ c.rest :=
  c.skip_rest n ▸ List.drop_suffix n c.rest

theorem rest_of_peek? (h : c.peek? = some ch) : ∃ tail, c.rest = ch :: tail :=
  List.head?_eq_some_iff.1 h

theorem next_of_rest (h : c.rest = ch :: tail) : c.next.rest = tail := by
  rw [next_rest, h, List.tail_cons]

end Cursor

theorem bareWord_bare (first : List Char) : Bare d c.rest (bareWord d first c) :=
  ⟨c.span_suffix _, fun _ h => h⟩

theorem operator_bare (spelling : String) : Bare d c.rest (operator d spelling c) := by
  unfold operator
  dsimp only
  split <;> exact ⟨c.span_suffix _, fun _ h => h⟩

theorem identifierOrNumber_bare (first : List Char) :
    Bare d c.rest (identifierOrNumber d first c) := by
  unfold identifierOrNumber
  dsimp only
  split
  · exact ⟨(Cursor.span_suffix _ _).trans (c.span_suffix _), fun _ h => h⟩
  · exact ⟨c.span_suffix _, fun _ h => h⟩

theorem symbol_bare (spelling : String) : Bare d c.rest (.symbol spelling, c) :=
  ⟨List.suffix_refl _, fun _ h => h⟩

theorem atSign_bare : Bare d c.next.rest (atSign d c) := by
  have htwo := c.next.next_suffix
  unfold atSign
  dsimp only
  split
  case h_1 | h_2 => exact (symbol_bare _).mono htwo
  case h_3 =>
    split
    case h_3 =>
      split
      · exact (identifierOrNumber_bare _).mono ((Cursor.next_suffix _).trans htwo)
      · exact (symbol_bare _).mono htwo
    all_goals exact (symbol_bare _).mono htwo
  case h_9 =>
    split
    · exact (identifierOrNumber_bare _).mono htwo
    · exact symbol_bare _
  all_goals exact symbol_bare _

theorem hashSign_bare : Bare d c.next.rest (hashSign d c) := by
  have htwo := c.next.next_suffix
  unfold hashSign
  dsimp only
  split
  · exact (operator_bare _).mono htwo
  · split
    · exact (operator_bare _).mono ((Cursor.next_suffix _).trans htwo)
    · exact (operator_bare _).mono htwo
  · exact symbol_bare _
  · split
    · exact (identifierOrNumber_bare _).mono htwo
    · exact operator_bare _
  · exact operator_bare _

theorem questionMark_bare : Bare d c.next.rest (questionMark d c) := by
  unfold questionMark
  dsimp only
  split
  · split <;> exact (symbol_bare _).mono (Cursor.next_suffix _)
  · exact ⟨Cursor.span_suffix _ _, fun _ h => h⟩

theorem lineComment_bare {opening : String} (h : opening ≠ "--") :
    Bare d c.rest (lineComment d opening c) := by
  refine ⟨(Cursor.next_suffix _).trans (c.span_suffix _), fun w hshared => ?_⟩
  change if opening = "--" then _ else _ at hshared
  rwa [if_neg h] at hshared

theorem exponent_suffix : (exponent c).2.rest <:+ c.rest := by
  unfold exponent
  split
  · split
    · extract_lets sign digits
      split
      · exact List.suffix_refl _
      · exact (Cursor.span_suffix _ _).trans (c.skip_suffix _)
    · exact List.suffix_refl _
  · exact List.suffix_refl _

theorem number_start (hc : c.rest = ch :: tail) (hch : Dialect.isDigit ch = true ∨ ch = '.') :
    (c.span Dialect.isDigit).2.rest <:+ tail ∨
      (c.span Dialect.isDigit).2.rest = '.' :: tail := by
  obtain ⟨place, rest⟩ := c
  obtain rfl : rest = ch :: tail := hc
  unfold Cursor.span Cursor.spanFrom
  by_cases hdigit : Dialect.isDigit ch = true
  · rw [if_pos hdigit]
    exact .inl (Cursor.span_suffix ⟨_, tail⟩ _)
  · rw [if_neg hdigit]
    exact .inr (congrArg (· :: tail) (hch.resolve_left hdigit))

def isPlain (ch : Char) : Bool := !(['\'', '"', '\x60', '-', '/', '$', ';'].contains ch)

theorem codeStep_of_plain (h : isPlain ch = true) : codeStep ch cs = .code := by
  simp_all [isPlain, codeStep]

theorem inert_of_plain (h : ∀ a ∈ w, isPlain a = true) :
    inert after w = true := by
  induction w with
  | nil => rfl
  | cons a w ih =>
    have ha := h a List.mem_cons_self
    have hcut : a ≠ ';' := by rintro rfl; cases ha
    simp [inert, hcut, codeStep_of_plain ha, ih fun a' ha' => h a' (List.mem_cons_of_mem a ha')]

theorem isPlain_of_class {p : Char → Bool} (h : p ch = true)
    (hp : ['\'', '"', '\x60', '-', '/', '$', ';'].all (fun a => !p a) = true) :
    isPlain ch = true := by
  rw [isPlain, Bool.not_eq_true']
  refine Bool.eq_false_iff.2 fun hmem => ?_
  have hnot := List.all_eq_true.1 hp ch (List.contains_iff_mem.1 hmem)
  rw [h] at hnot
  cases hnot

theorem hexDigit_plain (h : isHexDigit ch = true) : isPlain ch = true :=
  isPlain_of_class h (by decide)

theorem mem_span {p : Char → Bool} (h : ch ∈ (c.span p).1) : p ch = true := by
  obtain ⟨place, rest⟩ := c
  induction rest generalizing place with
  | nil => cases h
  | cons a rest ih =>
    unfold Cursor.span Cursor.spanFrom at h
    split at h
    · obtain rfl | h := List.mem_cons.1 h
      · assumption
      · exact ih _ h
    · cases h

theorem numberOrPeriod_agrees (hc : c.rest = ch :: tail)
    (hch : Dialect.isDigit ch = true ∨ ch = '.') : Agrees d c (numberOrPeriod d c) := by
  have hstart := number_start hc hch
  have happend := c.span_append Dialect.isDigit
  unfold numberOrPeriod
  rcases hwhole : c.span Dialect.isDigit with ⟨whole, c₁⟩
  rw [hwhole] at hstart happend
  dsimp only at hstart happend ⊢
  split
  case isTrue hhex =>
    rw [Bool.and_eq_true, decide_eq_true_iff, decide_eq_true_iff] at hhex
    obtain ⟨rfl, hx⟩ := hhex
    obtain ⟨rest, hrest⟩ := Cursor.rest_of_peek? hx
    refine ⟨'0' :: 'x' :: (c₁.next.span isHexDigit).1, List.cons_ne_nil _ _, ?_, fun _ => ?_⟩
    · rw [← happend, hrest, ← Cursor.next_of_rest hrest]
      exact congrArg ('0' :: 'x' :: ·) (c₁.next.span_append isHexDigit).symm
    · refine crosses_of_inert (inert_of_plain fun a ha => ?_)
      simp only [List.mem_cons] at ha
      rcases ha with rfl | rfl | ha
      · decide
      · decide
      · exact hexDigit_plain (mem_span ha)
  case isFalse =>
    rcases hpoint : (if c₁.peek? = some '.' then (['.'], c₁.next) else ([], c₁)) with ⟨point, c₂⟩
    have hc₂ : c₂.rest <:+ tail := by
      split at hpoint
      case isTrue hperiod =>
        cases hpoint
        obtain hstart | hstart := hstart
        · exact c₁.next_suffix.trans hstart
        · exact Cursor.next_of_rest hstart ▸ List.suffix_refl _
      case isFalse hperiod =>
        cases hpoint
        exact hstart.resolve_right fun hstart => hperiod (by rw [Cursor.peek?, hstart]; rfl)
    dsimp only
    have hc₃ := (c₂.span_suffix Dialect.isDigit).trans hc₂
    rcases hfraction : c₂.span Dialect.isDigit with ⟨fraction, c₃⟩
    rw [hfraction] at hc₃
    dsimp only
    split
    · exact Bare.agrees ⟨hc₃, fun _ h => h⟩ hc
    · rcases hnamed : (if d.digitsStartNames && !opensExponent c₃ then
        c₃.span d.continuesIdentifier else ([], c₃)) with ⟨more, c₄⟩
      have hc₄ : c₄.rest <:+ tail := by
        split at hnamed
        · have hspan := c₃.span_suffix d.continuesIdentifier
          rw [hnamed] at hspan
          exact hspan.trans hc₃
        · cases hnamed
          exact hc₃
      have hpower := exponent_suffix.trans hc₃
      dsimp only
      split
      · exact Bare.agrees ⟨hc₄, fun _ h => h⟩ hc
      · split
        · exact Bare.agrees ⟨(Cursor.next_suffix _).trans hpower, fun _ h => h⟩ hc
        · exact Bare.agrees ⟨hpower, fun _ h => h⟩ hc

end SqlLineage.Sql
