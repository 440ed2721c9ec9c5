import SqlLineage.Script.Reading

/-! What becomes of a script, whatever the parser makes of its texts. A script is refused, fails to
parse or gives statements, and when it is read piece by piece every piece either gives its
statements or is listed as skipped. -/

namespace SqlLineage.Script

variable {σ : Type} (parse : String → Except String (List σ))

def found (text : String) : List σ := (parse text).toOption.getD []

theorem found_eq_nil_iff (text : String) :
    found parse text = [] ↔ ∀ statements, parse text = .ok statements → statements = [] := by
  unfold found
  cases parse text with
  | error message =>
    constructor
    · intro _ statements h
      cases h
    · intro _
      rfl
  | ok statements =>
    constructor
    · rintro rfl statements h
      exact (Except.ok.inj h).symm
    · intro h
      exact h statements rfl

/-- Each piece is accounted for once, at its place: by its statements or as skipped. -/
structure AccountsFor (pieces : List String) (parsed : Parsed σ) : Prop where
  statements : parsed.statements = pieces.flatMap (found parse)
  skipped : ∀ s, s ∈ parsed.skipped ↔
    pieces[s.index]? = some s.sql ∧ parse s.sql = .error s.error
  increasing : parsed.skipped.Pairwise fun s s' => s.index < s'.index

theorem statements_parsePieces (index : Nat) (pieces : List String) :
    (parsePieces parse index pieces).statements = pieces.flatMap (found parse) := by
  induction pieces generalizing index with
  | nil => rfl
  | cons piece pieces ih =>
    rw [parsePieces, List.flatMap_cons, ← ih (index + 1), found]
    cases parse piece <;> rfl

theorem mem_skipped_parsePieces (index : Nat) (pieces : List String) (s : Skipped) :
    s ∈ (parsePieces parse index pieces).skipped ↔
      ∃ n, s.index = index + n ∧ pieces[n]? = some s.sql ∧ parse s.sql = .error s.error := by
  induction pieces generalizing index with
  | nil => simp [parsePieces]
  | cons piece pieces ih =>
    -- a piece further on stands one place later than the induction counts
    have hrest : s ∈ (parsePieces parse (index + 1) pieces).skipped ↔
        ∃ n, s.index = index + (n + 1) ∧ (piece :: pieces)[n + 1]? = some s.sql ∧
          parse s.sql = .error s.error := by
      rw [ih (index + 1)]
      simp only [List.getElem?_cons_succ, Nat.add_assoc, Nat.add_comm 1]
    rw [parsePieces]
    cases hpiece : parse piece with
    | ok statements =>
      rw [addPiece, hrest]
      constructor
      · rintro ⟨n, h⟩
        exact ⟨n + 1, h⟩
      · rintro ⟨n, hindex, hsql, herror⟩
        cases n with
        | zero =>
          obtain rfl := Option.some.inj hsql
          rw [hpiece] at herror
          cases herror
        | succ n => exact ⟨n, hindex, hsql, herror⟩
    | error message =>
      rw [addPiece, List.mem_cons, hrest]
      constructor
      · rintro (rfl | ⟨n, h⟩)
        · exact ⟨0, rfl, rfl, hpiece⟩
        · exact ⟨n + 1, h⟩
      · rintro ⟨n, hindex, hsql, herror⟩
        cases n with
        | zero =>
          obtain ⟨i, sql, error⟩ := s
          obtain rfl : i = index := hindex
          obtain rfl : piece = sql := Option.some.inj hsql
          rw [hpiece] at herror
          obtain rfl : message = error := Except.error.inj herror
          exact .inl rfl
        | succ n => exact .inr ⟨n, hindex, hsql, herror⟩

theorem pairwise_skipped_parsePieces (index : Nat) (pieces : List String) :
    (parsePieces parse index pieces).skipped.Pairwise fun s s' => s.index < s'.index := by
  induction pieces generalizing index with
  | nil => exact .nil
  | cons piece pieces ih =>
    rw [parsePieces]
    cases parse piece with
    | ok statements => exact ih (index + 1)
    | error message =>
      refine .cons (fun s hs => ?_) (ih (index + 1))
      obtain ⟨n, hindex, -⟩ := (mem_skipped_parsePieces parse (index + 1) pieces s).1 hs
      simp only [hindex]
      omega

theorem accountsFor_parsePieces (pieces : List String) :
    AccountsFor parse pieces (parsePieces parse 0 pieces) where
  statements := statements_parsePieces parse 0 pieces
  skipped s := by
    rw [mem_skipped_parsePieces]
    simp only [Nat.zero_add]
    exact ⟨fun ⟨n, hindex, h⟩ => hindex ▸ h, fun h => ⟨s.index, rfl, h⟩⟩
  increasing := pairwise_skipped_parsePieces parse 0 pieces

/-! ### The three outcomes -/

def Error.isInvalid : Error → Bool
  | .unparsable _ _ => false
  | _ => true

variable (dialect : Dialect) (sql : String)

/-- The first look rejects the script, or there is no statement in it. -/
def Refused : Prop :=
  (∃ error, validate sql = .error error) ∨ parse (preprocess dialect sql) = .ok []

/-- The script passes the first look, but it does not parse as a whole, for the reason `message`,
and no piece of it yields a statement. -/
def Unread (message : String) : Prop :=
  validate sql = .ok () ∧ parse (preprocess dialect sql) = .error message ∧
    ∀ piece ∈ split dialect.backslashEscapes (preprocess dialect sql),
      ∀ statements, parse piece = .ok statements → statements = []

theorem isInvalid_of_validate {sql : String} {error : Error} (h : validate sql = .error error) :
    error.isInvalid = true := by
  unfold validate at h
  split at h
  · cases h
    rfl
  · split at h
    · cases h
    · cases h
      rfl

theorem parseWith_of_rejected {sql : String} {error : Error} (h : validate sql = .error error) :
    parseWith parse dialect sql = .error error := by
  unfold parseWith readWith
  rw [h]
  rfl

theorem parseWith_of_valid {sql : String} (h : validate sql = .ok ()) :
    parseWith parse dialect sql =
      (read parse dialect.backslashEscapes (preprocess dialect sql)).result dialect := by
  unfold parseWith readWith
  rw [h]
  rfl

variable {parse dialect sql}

theorem read_of_ok {escapes : Bool} {statements : List σ} (h : parse sql = .ok statements) :
    read parse escapes sql = .whole statements := by
  delta read
  rw [h]

theorem read_of_error {escapes : Bool} {message : String} (h : parse sql = .error message) :
    read parse escapes sql =
      .piecewise message (parsePieces parse 0 (split escapes sql)) := by
  delta read
  rw [h]

theorem Refused.parseWith (h : Refused parse dialect sql) :
    ∃ error, Error.isInvalid error = true ∧ parseWith parse dialect sql = .error error := by
  cases hvalid : validate sql with
  | error error =>
    exact ⟨error, isInvalid_of_validate hvalid, parseWith_of_rejected parse dialect hvalid⟩
  | ok _ =>
    obtain ⟨error, herror⟩ | hnothing := h
    · rw [hvalid] at herror
      cases herror
    · refine ⟨.noStatement, rfl, ?_⟩
      rw [parseWith_of_valid parse dialect hvalid, read_of_ok hnothing]
      rfl

theorem Unread.parseWith {message : String} (h : Unread parse dialect sql message) :
    parseWith parse dialect sql = .error (.unparsable dialect message) := by
  obtain ⟨hvalid, hwhole, hpieces⟩ := h
  rw [parseWith_of_valid parse dialect hvalid, read_of_error hwhole]
  have hnone : (parsePieces parse 0
      (split dialect.backslashEscapes (preprocess dialect sql))).statements = [] := by
    rw [statements_parsePieces, List.flatMap_eq_nil_iff]
    exact fun piece hpiece => (found_eq_nil_iff parse piece).2 (hpieces piece hpiece)
  cases hparsed : parsePieces parse 0
      (split dialect.backslashEscapes (preprocess dialect sql)) with
  | mk statements skipped =>
    rw [hparsed] at hnone
    obtain rfl : statements = [] := hnone
    rfl

theorem exists_parseWith (hrefused : ¬ Refused parse dialect sql)
    (hunread : ∀ message, ¬ Unread parse dialect sql message) :
    ∃ parsed, parseWith parse dialect sql = .ok parsed ∧ parsed.statements ≠ [] ∧
      (∀ statements, parse (preprocess dialect sql) = .ok statements →
        parsed = ⟨statements, []⟩) ∧
      ∀ message, parse (preprocess dialect sql) = .error message →
        AccountsFor parse (split dialect.backslashEscapes (preprocess dialect sql)) parsed := by
  have hvalid : validate sql = .ok () := by
    cases hvalidate : validate sql with
    | error error => exact absurd (.inl ⟨error, hvalidate⟩) hrefused
    | ok _ => rfl
  rw [parseWith_of_valid parse dialect hvalid]
  cases hwhole : parse (preprocess dialect sql) with
  | ok statements =>
    cases statements with
    | nil => exact absurd (.inr hwhole) hrefused
    | cons statement statements =>
      rw [read_of_ok hwhole]
      refine ⟨⟨statement :: statements, []⟩, rfl, List.cons_ne_nil _ _, ?_, ?_⟩
      · intro statements' h
        cases h
        rfl
      · intro message h
        cases h
  | error message =>
    rw [read_of_error hwhole]
    have haccounts := accountsFor_parsePieces parse
      (split dialect.backslashEscapes (preprocess dialect sql))
    cases hparsed : parsePieces parse 0
        (split dialect.backslashEscapes (preprocess dialect sql)) with
    | mk statements skipped =>
      rw [hparsed] at haccounts
      cases statements with
      | nil =>
        -- then no piece yields a statement, and the script is unread
        refine absurd ⟨hvalid, hwhole, fun piece hpiece => ?_⟩ (hunread message)
        have hnone := List.flatMap_eq_nil_iff.1 haccounts.statements.symm
        exact (found_eq_nil_iff parse piece).1 (hnone piece hpiece)
      | cons statement statements =>
        refine ⟨⟨statement :: statements, skipped⟩, rfl, List.cons_ne_nil _ _, ?_,
          fun _ _ => haccounts⟩
        intro statements' h
        cases h

variable (parse dialect sql)

theorem parseWith_cases :
    Refused parse dialect sql ∨ (∃ message, Unread parse dialect sql message) ∨
      ∃ parsed, parseWith parse dialect sql = .ok parsed := by
  by_cases hrefused : Refused parse dialect sql
  · exact .inl hrefused
  by_cases hunread : ∃ message, Unread parse dialect sql message
  · exact .inr (.inl hunread)
  obtain ⟨parsed, hparsed, -⟩ :=
    exists_parseWith hrefused fun message hmessage => hunread ⟨message, hmessage⟩
  exact .inr (.inr ⟨parsed, hparsed⟩)

/-- The outcome of a script for every parser: which scripts are refused, which do not parse, and
that all others give at least one statement with every piece accounted for. -/
theorem parseWith_account :
    ((∃ error, Error.isInvalid error = true ∧ parseWith parse dialect sql = .error error) ↔
      Refused parse dialect sql) ∧
    (∀ d message, parseWith parse dialect sql = .error (.unparsable d message) ↔
      d = dialect ∧ Unread parse dialect sql message) ∧
    (¬ Refused parse dialect sql → (∀ message, ¬ Unread parse dialect sql message) →
      ∃ parsed, parseWith parse dialect sql = .ok parsed ∧ parsed.statements ≠ [] ∧
        (∀ statements, parse (preprocess dialect sql) = .ok statements →
          parsed = ⟨statements, []⟩) ∧
        ∀ message, parse (preprocess dialect sql) = .error message →
          AccountsFor parse (split dialect.backslashEscapes (preprocess dialect sql)) parsed) := by
  have hcases := parseWith_cases parse dialect sql
  refine ⟨⟨?_, Refused.parseWith⟩, fun d message => ⟨?_, ?_⟩, exists_parseWith⟩
  · rintro ⟨error, hinvalid, herror⟩
    obtain hrefused | ⟨message, hunread⟩ | ⟨parsed, hparsed⟩ := hcases
    · exact hrefused
    · rw [hunread.parseWith] at herror
      cases herror
      cases hinvalid
    · rw [hparsed] at herror
      cases herror
  · intro herror
    obtain hrefused | ⟨message', hunread⟩ | ⟨parsed, hparsed⟩ := hcases
    · obtain ⟨error, hinvalid, herror'⟩ := hrefused.parseWith
      rw [herror'] at herror
      cases herror
      cases hinvalid
    · rw [hunread.parseWith] at herror
      cases herror
      exact ⟨rfl, hunread⟩
    · rw [hparsed] at herror
      cases herror
  · rintro ⟨rfl, hunread⟩
    exact hunread.parseWith

end SqlLineage.Script
