import SqlLineage.Proofs.TokenAgreement

/-! The cutter and the lexer on semicolons. A script of texts in which every token the lexer finds
is shared is cut into exactly these texts. A comment within a comment shows why the tokens must
be shared. -/

namespace SqlLineage.Sql
open Script

structure Spelling where
  lexeme : Lexeme
  text : List Char
  after : List Char

def spellFrom (d : Dialect) : Nat → Cursor → Except LexError (List Spelling)
  | 0, _ => .ok []
  | fuel + 1, c =>
    match c.peek? with
    | none => .ok []
    | some ch => do
      let (token, rest) ← scanToken d ch c
      let tail ← spellFrom d fuel rest
      return ⟨⟨token, c.place⟩, c.rest.take (c.rest.length - rest.rest.length), rest.rest⟩ :: tail

def spellings (d : Dialect) (s : String) : Except LexError (List Spelling) :=
  spellFrom d (s.toList.length + 1) (Cursor.start s.toList)

/-- The cutter sees in every token of the text what the lexer sees. -/
def SharedText (d : Dialect) (s : String) : Prop :=
  ∀ found ∈ (spellings d s).toOption, ∀ p ∈ found, p.lexeme.token.Shared d p.text p.after

instance (d : Dialect) (s : String) : Decidable (SharedText d s) :=
  inferInstanceAs (Decidable (∀ found ∈ (spellings d s).toOption, ∀ p ∈ found, _))

variable {d : Dialect} {c : Cursor}

theorem lexFrom_eq_spellFrom (fuel : Nat) (c : Cursor) :
    lexFrom d fuel c = (spellFrom d fuel c).map (List.map Spelling.lexeme) := by
  induction fuel generalizing c with
  | zero => rfl
  | succ fuel ih =>
    unfold lexFrom spellFrom
    cases c.peek? with
    | none => rfl
    | some ch =>
      dsimp only
      cases scanToken d ch c with
      | error fault => rfl
      | ok r =>
        change (lexFrom d fuel r.2 >>= _) = Except.map _ (spellFrom d fuel r.2 >>= _)
        rw [ih]
        cases spellFrom d fuel r.2 <;> rfl

theorem lex_eq_spellings (s : String) :
    lex d s = (spellings d s).map (List.map Spelling.lexeme) := lexFrom_eq_spellFrom _ _

theorem spellFrom_crosses {fuel : Nat} {found : List Spelling} (hfuel : c.rest.length < fuel)
    (h : spellFrom d fuel c = .ok found)
    (hshared : ∀ p ∈ found, p.lexeme.token.Shared d p.text p.after) :
    Crosses d.backslashEscapes c.rest [] := by
  induction fuel generalizing c found with
  | zero => exact absurd hfuel (Nat.not_lt_zero _)
  | succ fuel ih =>
    unfold spellFrom at h
    cases hpeek : c.peek? with
    | none =>
      have hempty : c.rest = [] := List.head?_eq_none_iff.1 hpeek
      rw [hempty]
      exact crosses_nil []
    | some ch =>
      rw [hpeek] at h
      obtain ⟨⟨token, rest⟩, hscan, h⟩ := ok_of_bind h
      obtain ⟨tail, htail, h⟩ := ok_of_bind h
      cases h
      obtain ⟨cs, hc⟩ := Cursor.rest_of_peek? hpeek
      obtain ⟨w, hne, hw, hcrosses⟩ := scanToken_agrees hc hscan
      dsimp only at hw hcrosses
      have htext : c.rest.take (c.rest.length - rest.rest.length) = w := by simp [hw]
      -- Every token takes a character, so the fuel lasts.
      have hlength : rest.rest.length < fuel := by
        have hpos := List.length_pos_iff.2 hne
        rw [hw, List.length_append] at hfuel
        omega
      have hfirst := hshared _ List.mem_cons_self
      rw [htext] at hfirst
      rw [hw]
      refine Crosses.append ?_ (ih hlength htail fun p hp => hshared p (List.mem_cons_of_mem _ hp))
      rw [List.append_nil]
      exact hcrosses hfirst

theorem SharedText.crosses {s : String} (hlex : (lex d s).isOk = true) (h : SharedText d s) :
    Crosses d.backslashEscapes s.toList [] := by
  rw [lex_eq_spellings] at hlex
  cases hfound : spellings d s with
  | error fault =>
    rw [hfound] at hlex
    cases hlex
  | ok found =>
    refine spellFrom_crosses (c := Cursor.start s.toList) (Nat.lt_succ_self _) hfound ?_
    exact h found (by rw [hfound]; rfl)

end SqlLineage.Sql

namespace SqlLineage.Script
open Sql

/-- Texts whose tokens the cutter and the lexer share are cut at the semicolons between them and
nowhere else. -/
theorem split_join_shared (d : Dialect) (texts : List String)
    (hblank : ∀ t ∈ texts, Text.trim t ≠ "") (hlex : ∀ t ∈ texts, (lex d t).isOk = true)
    (hshared : ∀ t ∈ texts, SharedText d t) :
    split d.backslashEscapes ("\n;\n".intercalate texts) = texts.map Text.trim := by
  rw [split_join fun t ht => (hshared t ht).crosses (hlex t ht),
    filterMap_piece?_of_trim_ne hblank]

def guarded : List String :=
  ["SELECT 'it''s; \\' AS \"a;b\" -- one; 'two", " SELECT $t$;$$;'$t$ /* ; /* */\n",
    "SELECT E'a;\\n' || 0x1F, 1e-3 - -$1"]

theorem split_join_shared_guarded :
    (∀ t ∈ guarded, Text.trim t ≠ "") ∧ (∀ t ∈ guarded, (lex .ansi t).isOk = true) ∧
      (∀ t ∈ guarded, SharedText .ansi t) ∧
      split (Dialect.backslashEscapes .ansi) ("\n;\n".intercalate guarded) =
        guarded.map Text.trim := by
  have hblank : ∀ t ∈ guarded, Text.trim t ≠ "" := by decide +kernel
  have hlex : ∀ t ∈ guarded, (lex .ansi t).isOk = true := by decide +kernel
  have hshared : ∀ t ∈ guarded, SharedText .ansi t := by decide +kernel
  exact ⟨hblank, hlex, hshared, split_join_shared .ansi guarded hblank hlex hshared⟩

/-- A text without a semicolon token may still be cut: the lexer goes on to the end of the outer
comment, the cutter only to the end of the inner one. -/
theorem split_cuts_nested_comment :
    ¬ ∀ (d : Dialect) (texts : List String), (∀ t ∈ texts, Text.trim t ≠ "") →
      (∀ t ∈ texts, ∃ found ∈ (lex d t).toOption, ∀ l ∈ found, l.token ≠ .symbol ";") →
      split d.backslashEscapes ("\n;\n".intercalate texts) = texts.map Text.trim := by
  intro h
  have hcut := h .generic ["/* /* ; */ ; */ SELECT 1", "SELECT 2"] (by decide +kernel)
    (by decide +kernel)
  exact absurd hcut (by decide +kernel)

end SqlLineage.Script
