import SqlLineage.Sql.Parser.DocumentTable
import SqlLineage.Sql.Parser.RowPattern

/-! The tables of a FROM clause and how they are joined. -/

namespace SqlLineage.Sql

/-- One table of a FROM clause: what stands before its alias, the alias, what stands after it. -/
structure TableFactor where
  head : Phrase
  called : Option Phrase := none
  tail : Phrase := Phrase.empty
  /-- Tables joined inside parentheses. -/
  isNested : Bool := false

def TableFactor.phrase (t : TableFactor) : Phrase :=
  let name := match t.called with
    | some a => Phrase.word " AS " ++ a
    | none => Phrase.empty
  t.head ++ name ++ t.tail

namespace Parser

variable [Nesting]

/-! ### Aliases -/

/-- The columns after a table alias, each of which may have a type. -/
def aliasColumns : Parser Phrase := do
  if !(← symbol "(") then return Phrase.empty
  let columns ← listOf do
    let name ← identPhrase
    let type ← attempt typePhrase
    return Phrase.words [name, type.getD Phrase.empty]
  expectSymbol ")"
  return columns.parens

def tableAlias : Parser (Option Phrase) := do
  match ← optionalAlias notTableAlias with
  | some name => return some (Phrase.words [name.render, ← aliasColumns])
  | none => return none

/-! ### Samples, versions and arguments -/

/-- A sample of a table's rows, with a blank before it. -/
def sample : Parser Phrase := do
  match ← oneOf ["TABLESAMPLE", "SAMPLE"] with
  | none => return Phrase.empty
  | some modifier =>
    let method ← match ← oneOf ["BERNOULLI", "ROW", "SYSTEM", "BLOCK"] with
      | some k => pure (Phrase.word k)
      | none => pure Phrase.empty
    let inParens ← symbol "("
    let enclose (p : Phrase) : Phrase := if inParens then p.parens else p
    let (quantity, bucket) ← (show Parser (Phrase × Phrase) from do
      if ← given inParens (keyword "BUCKET") then
        let chosen ← numberValue
        expectKeywords ["OUT", "OF"]
        let total ← numberValue
        let on ← after ["ON"] expr
        return (Phrase.empty, (Phrase.words ["BUCKET", chosen, "OUT OF", total, on]).parens)
      let amount ← match ← attempt expr with
        | some amount => pure amount
        | none => do
          match tokenOf (← next) with
          | some (.word value _ _) => pure (Phrase.word value)
          | _ => fail (.unexpected
              ("Expecting number or byte length e.g. 100M" ++ placeText (← peek)))
      let unit ← match ← oneOf ["ROWS", "PERCENT"] with
        | some k => pure (Phrase.word k)
        | none => pure Phrase.empty
      return (enclose (Phrase.words [amount, unit]), Phrase.empty))
    if inParens then expectSymbol ")"
    let seed ← match ← oneOf ["REPEATABLE", "SEED"] with
      | some k => pure (Phrase.words [k, (← parens numberValue).parens])
      | none => pure Phrase.empty
    let offset ← after ["OFFSET"] expr
    return Phrase.word " " ++ Phrase.words [modifier, method, quantity, seed, bucket, offset]

/-- A table as it was at some time, with a blank before it. -/
def version : Parser Phrase := do
  let d ← dialect
  if !d.timeTravel then return Phrase.empty
  if ← keywordRun ["FOR", "SYSTEM_TIME", "AS", "OF"] then
    return Phrase.word " FOR SYSTEM_TIME AS OF " ++ (← expr)
  if ← peekOneOf ["AT", "BEFORE"] then
    let name ← objectNameIn true
    return Phrase.word " " ++ (← call interval name.render)
  return Phrase.empty

def setting : Parser Setting := do
  let key ← identifier
  expectSymbol "="
  return ⟨key, (← value).text⟩

def settings : Parser (List Setting) := do
  if !(← given ((← dialect) == .generic) (keyword "SETTINGS")) then return []
  commaSeparated setting

/-- The arguments of a table function after the opening parenthesis. -/
def tableArguments : Parser Phrase := do
  if ← symbol ")" then return Phrase.empty
  let trailing ← choice (· == .duckdb)
  let (args, _) ← loop ([], false) fun (args, ended) => do
    if ended then return none
    match ← settings with
    | [] =>
      let arg ← argument
      return some (arg :: args, !(← listGoesOn trailing notColumnAlias))
    | found => return some (Setting.clause found :: args, true)
  expectSymbol ")"
  return Phrase.list args.reverse

/-! ### Pivots -/

def pivotFunction : Parser Phrase := do
  match tokenOf (← next) with
  | some (.word name _ _) =>
    let called ← call interval name
    if ← keyword "AS" then return Phrase.words [called, "AS", ← identPhrase]
    return called
  | _ => expectedNext "a function identifier"

/-- An expression and its alias. -/
def aliasedExpr : Parser Phrase := do
  let e ← expr
  if ← keyword "AS" then return Phrase.words [e, "AS", ← identPhrase]
  return e

/-- Rows turned into columns, after the keyword. -/
def pivot (table : TableFactor) : Parser TableFactor := do
  expectSymbol "("
  let functions ← listOf pivotFunction
  expectKeyword "FOR"
  let column ← namePhrase
  expectKeyword "IN"
  expectSymbol "("
  let source ←
    if ← keyword "ANY" then do pure (Phrase.words ["ANY", ← orderBy])
    else if ← atQuery then queryPhrase
    else listOf aliasedExpr
  expectSymbol ")"
  let default ←
    if ← keywordRun ["DEFAULT", "ON", "NULL"] then do
      pure (Phrase.words ["DEFAULT ON NULL", (← parens expr).parens])
    else pure Phrase.empty
  expectSymbol ")"
  let name ← tableAlias
  let inside := Phrase.words [functions, "FOR", column, "IN", source.parens, default]
  return { head := table.phrase ++ Phrase.word " PIVOT" ++ inside.parens, called := name }

/-- Columns turned into rows, after the keyword. -/
def unpivot (table : TableFactor) : Parser TableFactor := do
  expectSymbol "("
  let value ← identPhrase
  expectKeyword "FOR"
  let name ← identPhrase
  expectKeyword "IN"
  let columns ← requiredColumns
  expectSymbol ")"
  let inside := Phrase.words [value, "FOR", name, "IN", (identList columns).parens]
  let given ← tableAlias
  return { head := table.phrase ++ Phrase.word " UNPIVOT" ++ inside.parens, called := given }

def pivots (table : TableFactor) : Parser TableFactor :=
  loop table fun table => do
    match ← oneOf ["PIVOT", "UNPIVOT"] with
    | some "PIVOT" => return some (← pivot table)
    | some _ => return some (← unpivot table)
    | none => return none

/-! ### Factors -/

/-- A named table, or a function that gives one. -/
def namedTable : Parser TableFactor := do
  let d ← dialect
  let name ← objectNameIn true
  let path ← if d.documentPaths && (← peekSymbol "[") then documentPath else pure Phrase.empty
  let partitions ←
    if ← given (d == .mysql || d == .generic) (keyword "PARTITION") then do
      pure (Phrase.word "PARTITION " ++ (identList (← columnList)).parens)
    else pure Phrase.empty
  let version ← version
  let called ← symbol "("
  let args ← if called then tableArguments else pure Phrase.empty
  let ordinality ← if ← keywordRun ["WITH", "ORDINALITY"] then pure (Phrase.word " WITH ORDINALITY")
    else pure Phrase.empty
  let sampleBefore ← if d.sampleBeforeAlias then sample else pure Phrase.empty
  let given ← tableAlias
  let start ← rest
  let hints ← (show Parser Phrase from do
    if !(← keyword "WITH") then return Phrase.empty
    if !(← symbol "(") then
      resume start
      return Phrase.empty
    let hints ← exprs
    expectSymbol ")"
    return Phrase.word " WITH " ++ hints.parens)
  let sampleAfter ← if d.sampleBeforeAlias then pure Phrase.empty else sample
  let head := Phrase.word name.render ++ path ++ partitions ++
    (if called then args.parens else Phrase.empty) ++ ordinality ++ sampleBefore
  let mention : Phrase := ⟨"", [.table name called]⟩
  let table : TableFactor :=
    { head := head.mentioning [mention, args, hints, version, path, sampleBefore, sampleAfter]
      called := given
      tail := (hints ++ version ++ sampleAfter).mentioning [] }
  let table ← pivots table
  if !(← Parser.given d.rowPatterns (keyword "MATCH_RECOGNIZE")) then return table
  let search ← patternSearch
  let head := table.phrase ++ Phrase.word " MATCH_RECOGNIZE" ++ search
  return { head, called := ← tableAlias }

/-- A query in parentheses, after the opening one. -/
def derivedTable (mark : String) : Parser TableFactor := do
  let subquery ← queryPhrase
  expectSymbol ")"
  let given ← tableAlias
  return { head := Phrase.word mark ++ subquery.parens, called := given }

/-- Rows written out in place of a table or as a query body, after the keyword. -/
def rows (emptyAllowed : Bool) : Parser Phrase := do
  let rows ← commaSeparated do
    let marked ← keyword "ROW"
    expectSymbol "("
    if ← given emptyAllowed (symbol ")") then return (marked, Phrase.empty)
    let row ← exprs
    expectSymbol ")"
    return (marked, row)
  let mark := if rows.any Prod.fst then "ROW" else ""
  return Phrase.word "VALUES " ++
    Phrase.list (rows.map fun (_, row) => Phrase.word mark ++ row.parens)

/-- The rows of an array as a table, after the keyword. -/
def unnest : Parser TableFactor := do
  let arrays ← parens exprs
  let ordinality ← if ← keywordRun ["WITH", "ORDINALITY"] then pure (Phrase.word " WITH ORDINALITY")
    else pure Phrase.empty
  let given ← tableAlias
  let offset ← (show Parser Phrase from do
    if !(← keyword "WITH") then return Phrase.empty
    if !(← keyword "OFFSET") then return Phrase.empty
    match ← optionalAlias notColumnAlias with
    | some name => return " WITH OFFSET AS " ++ name.render
    | none => return " WITH OFFSET")
  return { head := Phrase.word "UNNEST" ++ arrays.parens ++ ordinality, called := given,
           tail := offset }

/-- The condition of a join, with a blank before it. -/
def joinCondition (natural : Bool) : Parser Phrase := do
  if natural then return Phrase.empty
  if ← keyword "ON" then return Phrase.word " ON " ++ (← expr)
  if ← keyword "USING" then
    if !(← peekSymbol "(") then expectedNext "a list of columns in parentheses"
    let columns ← parens (commaSeparated (objectNameIn true))
    return Phrase.word " USING" ++ (Phrase.list (columns.map fun c => c.render)).parens
  return Phrase.empty

/-- How two tables are joined: the words before JOIN as they are written back. -/
def joinSort (natural : Bool) : Parser (Option String) := do
  match ← nextKeyword with
  | "INNER" | "JOIN" =>
    let _ ← keyword "INNER"
    expectKeyword "JOIN"
    return some ""
  | "LEFT" | "RIGHT" =>
    let side := (← oneOf ["LEFT", "RIGHT"]).getD ""
    match ← oneOf ["OUTER", "SEMI", "ANTI", "JOIN"] with
    | some "JOIN" => return some (side ++ " ")
    | some "OUTER" =>
      expectKeyword "JOIN"
      return some (side ++ " ")
    | some k =>
      expectKeyword "JOIN"
      return some (side ++ " " ++ k ++ " ")
    | none => fail (.unexpected ("expected OUTER, SEMI, ANTI or JOIN after " ++ side))
  | "ANTI" | "SEMI" =>
    let k := (← oneOf ["ANTI", "SEMI"]).getD ""
    expectKeyword "JOIN"
    return some (k ++ " ")
  | "FULL" =>
    let _ ← next
    let _ ← keyword "OUTER"
    expectKeyword "JOIN"
    return some "FULL "
  | "OUTER" => expectedNext "LEFT, RIGHT, or FULL"
  | _ => if natural then expectedNext "a join type after NATURAL" else return none

/-- One join with its blank before it, or nothing; `factor` reads the table on its right. -/
def joinWith (factor : Parser TableFactor) : Parser (Option Phrase) := do
  let shared := if ← keyword "GLOBAL" then " GLOBAL " else " "
  let join (words : String) (t : Phrase) : Phrase := Phrase.word (shared ++ words) ++ t
  if ← keyword "CROSS" then
    match ← oneOf ["JOIN", "APPLY"] with
    | some k => return some (join ("CROSS " ++ k ++ " ") (← factor).phrase)
    | none => expectedNext "JOIN or APPLY after CROSS"
  else if ← keyword "OUTER" then
    expectKeyword "APPLY"
    return some (join "OUTER APPLY " (← factor).phrase)
  else if ← keyword "ASOF" then
    expectKeyword "JOIN"
    let table ← factor
    expectKeyword "MATCH_CONDITION"
    let condition ← parens expr
    let closest := Phrase.word " MATCH_CONDITION " ++ condition.parens
    return some (join "ASOF JOIN " table.phrase ++ closest ++ (← joinCondition false))
  else
    let natural ← keyword "NATURAL"
    match ← joinSort natural with
    | none => return none
    | some sort =>
      let table ← factor
      let mark := if natural then "NATURAL " else ""
      return some (join (mark ++ sort ++ "JOIN ") table.phrase ++ (← joinCondition natural))

/-- Tables joined to a first one. -/
structure Joined where
  first : TableFactor
  joins : List Phrase

def Joined.phrase (j : Joined) : Phrase := j.first.phrase ++ Phrase.joined "" j.joins

def joinedWith (factor : Parser TableFactor) : Parser Joined := do
  let first ← factor
  return ⟨first, ← many (joinWith factor)⟩

/-- A table of a FROM clause; the tokens left are its bound. -/
def tableFactorWithin : Stream → Parser TableFactor
  | [] => do
    let _ ← objectName
    expectedNext "identifier"
  | _ :: bound => do
    let d ← dialect
    if ← keyword "LATERAL" then
      if ← symbol "(" then return ← derivedTable "LATERAL "
      let name ← namePhrase
      expectSymbol "("
      let args ← if ← symbol ")" then pure Phrase.empty
        else do
          let args ← listOf argument
          expectSymbol ")"
          pure args
      return { head := Phrase.words ["LATERAL", name ++ args.parens], called := ← tableAlias }
    if ← keyword "TABLE" then
      let e ← parens expr
      return { head := Phrase.word "TABLE" ++ e.parens, called := ← tableAlias }
    if ← symbol "(" then
      if let some table ← attempt (derivedTable "") then return ← pivots table
      let inside ← joinedWith (tableFactorWithin bound)
      if !inside.joins.isEmpty || inside.first.isNested then
        expectSymbol ")"
        return { head := inside.phrase.parens, called := ← tableAlias, isNested := true }
      if d == .snowflake || d == .generic then
        expectSymbol ")"
        match ← tableAlias, inside.first.called with
        | none, _ => return inside.first
        | some _, some inner => fail (.unexpected ("duplicate alias " ++ inner.text))
        | some outer, none => return { inside.first with called := some outer }
      expectedNext "joined table"
    if (d == .snowflake || d == .databricks || d == .generic) && isKeyword "VALUES" (← peekNth 0) &&
        isSymbol "(" (← peekNth 1) then
      expectKeyword "VALUES"
      let body ← rows false
      let query : Query := { body := body }
      return { head := query.phrase.parens, called := ← tableAlias }
    if ← given (d == .bigquery || d == .postgres || d == .generic) (keyword "UNNEST") then
      return ← unnest
    if let some table ← documentFactor? then return { head := table, called := ← tableAlias }
    namedTable

def tableFactor : Parser TableFactor := do tableFactorWithin (← rest)

def joinedTables : Parser Phrase := return (← joinedWith tableFactor).phrase

def fromList : Parser Phrase := do
  let trailing ← choice (·.fromTrailingComma)
  return Phrase.list (← separatedWith trailing afterFromComma joinedTables)

end Parser
end SqlLineage.Sql
