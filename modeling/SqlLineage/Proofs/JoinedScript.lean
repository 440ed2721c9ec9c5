import SqlLineage.Proofs.ScriptAccount
import SqlLineage.Proofs.SplitAgreement

/-! Reading a script that joins texts of one statement each. Piece by piece nothing is lost, so the
script gives these statements unless it parses as a whole to something else. A statement that
reads on past its semicolon makes it do so. -/

namespace SqlLineage.Script
open Sql

theorem lex_isOk_of_parse {d : Dialect} {t : String} {found : List Statement}
    (h : Sql.parse d t = .ok found) : (lex d t).isOk = true := by
  unfold Sql.parse at h
  split at h
  case h_1 => cases h
  case h_2 lexemes hlex =>
    rw [hlex]
    rfl

theorem parse_empty (d : Dialect) : Sql.parse d "" = .ok [] := by
  cases d <;> rfl

/-- The statements of the texts without the blanks around them, if they all parse. -/
def trimmedStatements (d : Dialect) (texts : List String) : Except SyntaxError (List Statement) :=
  (texts.mapM fun t => Sql.parse d (Text.trim t)).map List.flatten

theorem trimmedStatements_cons (d : Dialect) (t : String) (texts : List String) :
    trimmedStatements d (t :: texts) = do
      let first ← Sql.parse d (Text.trim t)
      let rest ← trimmedStatements d texts
      return first ++ rest := by
  rw [trimmedStatements, trimmedStatements, List.mapM_cons]
  cases Sql.parse d (Text.trim t) with
  | error fault => rfl
  | ok first =>
    cases texts.mapM fun t => Sql.parse d (Text.trim t) <;> rfl

theorem trimmedStatements_cons_ok {d : Dialect} {t : String} {first : List Statement}
    (h : Sql.parse d (Text.trim t) = .ok first) (texts : List String) :
    trimmedStatements d (t :: texts) = (trimmedStatements d texts).map (first ++ ·) := by
  rw [trimmedStatements_cons, h]
  cases trimmedStatements d texts <;> rfl

/-- Piece by piece the texts give what they give without the blanks around them. A blank text is no
piece, and it parses to nothing. -/
theorem parsePieces_eq_iff (d : Dialect) (texts : List String) (index : Nat)
    (statements : List Statement) :
    parsePieces (parseText d) index (texts.filterMap fun t => piece? t.toList) =
        ⟨statements, []⟩ ↔ trimmedStatements d texts = .ok statements := by
  induction texts generalizing index statements with
  | nil =>
    constructor
    · intro h
      cases h
      rfl
    · intro h
      cases h
      rfl
  | cons t texts ih =>
    by_cases hblank : Text.trim t = ""
    · have hnil : Sql.parse d (Text.trim t) = .ok [] := by rw [hblank, parse_empty]
      rw [List.filterMap_cons, piece?_of_trim_eq hblank, trimmedStatements_cons_ok hnil, ih]
      cases trimmedStatements d texts <;> rfl
    · rw [List.filterMap_cons, piece?_of_trim_ne hblank, parsePieces, parseText]
      cases hfirst : Sql.parse d (Text.trim t) with
      | error fault =>
        rw [trimmedStatements_cons, hfirst]
        constructor <;> intro h <;> cases h
      | ok first =>
        rw [trimmedStatements_cons_ok hfirst]
        constructor
        · intro h
          obtain ⟨hstatements, hskipped⟩ := Parsed.mk.inj h
          have hrest := (ih (index + 1) _).1 (congrArg (Parsed.mk _) hskipped)
          rw [hrest, ← hstatements]
          rfl
        · intro h
          cases hrest : trimmedStatements d texts with
          | error fault =>
            rw [hrest] at h
            cases h
          | ok rest =>
            rw [hrest] at h
            cases h
            rw [(ih (index + 1) rest).2 hrest]
            rfl

section

variable {d : Dialect} {texts : List String} {statements : List Statement}

theorem parse_of_valid {sql : String} (hvalid : validate sql = .ok ())
    (hpreprocess : preprocess d sql = sql) :
    parse d sql = (read (parseText d) d.backslashEscapes sql).result d := by
  rw [parse, parseWith_of_valid _ _ hvalid, hpreprocess]

theorem result_whole_eq_iff (d : Dialect) (found : List Statement) (s : Statement)
    (rest : List Statement) :
    (Reading.whole found).result d = .ok ⟨s :: rest, []⟩ ↔ found = s :: rest := by
  cases found with
  | nil => constructor <;> intro h <;> cases h
  | cons s' found =>
    constructor <;> intro h <;> cases h <;> rfl

theorem result_piecewise_eq_iff (d : Dialect) (error : String) (parsed : Parsed Statement)
    (s : Statement) (rest : List Statement) :
    (Reading.piecewise error parsed).result d = .ok ⟨s :: rest, []⟩ ↔
      parsed = ⟨s :: rest, []⟩ := by
  obtain ⟨statements, skipped⟩ := parsed
  cases statements with
  | nil => constructor <;> intro h <;> cases h
  | cons s' statements =>
    constructor <;> intro h <;> cases h <;> rfl

theorem parsePieces_join_iff (hparse : texts.map (Sql.parse d) = statements.map fun s => .ok [s])
    (hshared : ∀ t ∈ texts, SharedText d t) :
    parsePieces (parseText d) 0 (split d.backslashEscapes ("\n;\n".intercalate texts)) =
      ⟨statements, []⟩ ↔ trimmedStatements d texts = .ok statements := by
  have hcrosses : ∀ t ∈ texts, Crosses d.backslashEscapes t.toList [] := by
    intro t ht
    have hmem : Sql.parse d t ∈ texts.map (Sql.parse d) := List.mem_map_of_mem ht
    rw [hparse] at hmem
    obtain ⟨s, -, hs⟩ := List.mem_map.1 hmem
    exact (hshared t ht).crosses (lex_isOk_of_parse hs.symm)
  rw [split_join hcrosses, parsePieces_eq_iff]

theorem trimmedStatements_eq (hparse : texts.map (Sql.parse d) = statements.map fun s => .ok [s])
    (htrim : ∀ t ∈ texts, Sql.parse d (Text.trim t) = Sql.parse d t) :
    trimmedStatements d texts = .ok statements := by
  induction texts generalizing statements with
  | nil =>
    rw [List.map_eq_nil_iff.1 hparse.symm]
    rfl
  | cons t texts ih =>
    cases statements with
    | nil => cases hparse
    | cons s statements =>
      obtain ⟨hfirst, hrest⟩ := List.cons.inj hparse
      rw [← htrim t List.mem_cons_self] at hfirst
      rw [trimmedStatements_cons_ok hfirst,
        ih hrest fun u hu => htrim u (List.mem_cons_of_mem t hu)]
      rfl

theorem statements_ne_nil (hparse : texts.map (Sql.parse d) = statements.map fun s => .ok [s])
    (hvalid : validate ("\n;\n".intercalate texts) = .ok ()) : statements ≠ [] := by
  rintro rfl
  obtain rfl : texts = [] := List.map_eq_nil_iff.1 hparse
  cases hvalid

theorem result_read_eq_iff {sql : String} (hne : statements ≠ []) :
    (read (parseText d) d.backslashEscapes sql).result d = .ok ⟨statements, []⟩ ↔
      Sql.parse d sql = .ok statements ∨ (∀ found, Sql.parse d sql ≠ .ok found) ∧
        parsePieces (parseText d) 0 (split d.backslashEscapes sql) = ⟨statements, []⟩ := by
  obtain ⟨s, rest, rfl⟩ := List.exists_cons_of_ne_nil hne
  cases hwhole : Sql.parse d sql with
  | error fault =>
    have htext : parseText d sql = .error fault.render := by
      rw [parseText, hwhole]
      rfl
    rw [read, htext, result_piecewise_eq_iff]
    constructor
    · exact fun h => .inr ⟨fun _ h' => (nomatch h'), h⟩
    · rintro (h | ⟨_, h⟩)
      · cases h
      · exact h
  | ok found =>
    have htext : parseText d sql = .ok found := by
      rw [parseText, hwhole]
      rfl
    rw [read, htext, result_whole_eq_iff]
    constructor
    · rintro rfl
      exact .inl rfl
    · rintro (h | ⟨h, _⟩)
      · exact Except.ok.inj h
      · exact absurd rfl (h found)

/-- The statements of the texts are found just if the script parses as a whole to them, or does not
parse as a whole and the texts give them without the blanks around them. So where a text and its
trim parse alike, the statements are found unless the script as a whole parses to others. -/
theorem parse_join_iff (hparse : texts.map (Sql.parse d) = statements.map fun s => .ok [s])
    (hshared : ∀ t ∈ texts, SharedText d t)
    (hpreprocess : preprocess d ("\n;\n".intercalate texts) = "\n;\n".intercalate texts)
    (hvalid : validate ("\n;\n".intercalate texts) = .ok ()) :
    (parse d ("\n;\n".intercalate texts) = .ok ⟨statements, []⟩ ↔
      Sql.parse d ("\n;\n".intercalate texts) = .ok statements ∨
        (∀ found, Sql.parse d ("\n;\n".intercalate texts) ≠ .ok found) ∧
          trimmedStatements d texts = .ok statements) ∧
    ((∀ t ∈ texts, Sql.parse d (Text.trim t) = Sql.parse d t) →
      (parse d ("\n;\n".intercalate texts) = .ok ⟨statements, []⟩ ↔
        ∀ found, Sql.parse d ("\n;\n".intercalate texts) = .ok found → found = statements)) := by
  have hiff : parse d ("\n;\n".intercalate texts) = .ok ⟨statements, []⟩ ↔
      Sql.parse d ("\n;\n".intercalate texts) = .ok statements ∨
        (∀ found, Sql.parse d ("\n;\n".intercalate texts) ≠ .ok found) ∧
          trimmedStatements d texts = .ok statements := by
    rw [parse_of_valid hvalid hpreprocess, result_read_eq_iff (statements_ne_nil hparse hvalid),
      parsePieces_join_iff hparse hshared]
  refine ⟨hiff, fun htrim => hiff.trans ⟨?_, fun h => ?_⟩⟩
  · rintro (hwhole | ⟨hwhole, _⟩) found hfound
    · exact Except.ok.inj (hfound.symm.trans hwhole)
    · exact absurd hfound (hwhole found)
  · cases hwhole : Sql.parse d ("\n;\n".intercalate texts) with
    | error fault =>
      exact .inr ⟨fun _ h' => (nomatch h'), trimmedStatements_eq hparse htrim⟩
    | ok found => exact .inl (congrArg _ (h found hwhole))

end

-- the rows that a COPY takes in count their blanks, so not every text parses like its trim
example :
    let texts (s : String) := (Sql.parse .generic s).toOption.map (List.map Statement.text)
    texts (Text.trim "COPY t FROM STDIN;\n1\n") ≠ texts "COPY t FROM STDIN;\n1\n" := by
  decide +kernel

theorem exists_single {ε α : Type} {r : Except ε (List α)}
    (h : r.toOption.map List.length = some 1) : ∃ a, r = .ok [a] := by
  cases r with
  | error fault => cases h
  | ok found =>
    obtain ⟨a, rfl⟩ := List.length_eq_one_iff.1 (Option.some.inj h)
    exact ⟨a, rfl⟩

/-- The first statement reads on to the equals sign, where the script as a whole fails; its pieces
give both statements. -/
theorem parse_join_iff_show :
    ∃ statements : List Statement,
      ["SHOW a", "SELECT b = 1"].map (Sql.parse .generic) = (statements.map fun s => .ok [s]) ∧
      statements.length = 2 ∧
      parse .generic ("\n;\n".intercalate ["SHOW a", "SELECT b = 1"]) = .ok ⟨statements, []⟩ := by
  obtain ⟨s, hs⟩ : ∃ s, Sql.parse .generic "SHOW a" = .ok [s] :=
    exists_single (by decide +kernel)
  obtain ⟨s', hs'⟩ : ∃ s, Sql.parse .generic "SELECT b = 1" = .ok [s] :=
    exists_single (by decide +kernel)
  have hparse : ["SHOW a", "SELECT b = 1"].map (Sql.parse .generic) =
      [s, s'].map fun s => .ok [s] := by rw [List.map_cons, List.map_singleton, hs, hs']; rfl
  have hfails :
      (Sql.parse .generic ("\n;\n".intercalate ["SHOW a", "SELECT b = 1"])).isOk = false := by
    decide +kernel
  refine ⟨[s, s'], hparse, rfl, ?_⟩
  have htrim : ∀ t ∈ ["SHOW a", "SELECT b = 1"], Text.trim t = t := by decide +kernel
  refine ((parse_join_iff hparse (by decide +kernel) rfl rfl).2
    fun t ht => by rw [htrim t ht]).2 fun found hfound => ?_
  rw [hfound] at hfails
  cases hfails

/-- Here the first statement reads on to the end of the script and takes the second with it. -/
theorem parse_join_loses_statement :
    ¬ ∀ (d : Dialect) (texts : List String) (statements : List Statement),
      (texts.map (Sql.parse d) = statements.map fun s => .ok [s]) →
      preprocess d ("\n;\n".intercalate texts) = "\n;\n".intercalate texts →
      validate ("\n;\n".intercalate texts) = .ok () →
      parse d ("\n;\n".intercalate texts) = .ok ⟨statements, []⟩ := by
  intro h
  obtain ⟨s, hs⟩ : ∃ s, Sql.parse .generic "SHOW a" = .ok [s] :=
    exists_single (by decide +kernel)
  obtain ⟨s', hs'⟩ : ∃ s, Sql.parse .generic "SELECT * FROM y" = .ok [s] :=
    exists_single (by decide +kernel)
  have hparse : ["SHOW a", "SELECT * FROM y"].map (Sql.parse .generic) =
      [s, s'].map fun s => .ok [s] := by rw [List.map_cons, List.map_singleton, hs, hs']; rfl
  have hall := h .generic _ _ hparse rfl rfl
  have hcount : (parse .generic ("\n;\n".intercalate ["SHOW a", "SELECT * FROM y"])).toOption.map
      (fun parsed => parsed.statements.length) = some 1 := by decide +kernel
  rw [hall] at hcount
  cases hcount

end SqlLineage.Script
