import SqlLineage.Sql.Parser.Query
import SqlLineage.Text.Message

/-! Statements that change rows. -/

namespace SqlLineage.Sql.Parser

variable [Nesting]

/-! ### Parts they share -/

def assignment : Parser Phrase := do
  let target ← if ← peekSymbol "(" then Phrase.parens <$> parens (listOf namePhrase)
    else namePhrase
  expectSymbol "="
  return Phrase.words [target, "=", ← expr]

def whereClause : Parser Phrase := after ["WHERE"] expr

def returningClause : Parser Phrase := after ["RETURNING"] (listOf selectItem)

/-- What is done with a row that is already there. -/
def conflictChoice : Parser Phrase := do
  for k in ["REPLACE", "ROLLBACK", "ABORT", "FAIL", "IGNORE"] do
    if ← keywordRun ["OR", k] then return "OR " ++ k
  if ← keyword "REPLACE" then return "OR REPLACE"
  return Phrase.empty

def fileFormat : Parser Phrase := do
  match ← oneOf ["AVRO", "JSONFILE", "ORC", "PARQUET", "RCFILE", "SEQUENCEFILE", "TEXTFILE"] with
  | some k => return k
  | none => expectedNext "fileformat"

/-! ### INSERT -/

/-- What happens when an inserted row is already there. -/
def onInsert : Parser Phrase := do
  if !(← keyword "ON") then return Phrase.empty
  if !(← keyword "CONFLICT") then
    expectKeywords ["DUPLICATE", "KEY", "UPDATE"]
    return Phrase.words ["ON DUPLICATE KEY UPDATE", ← listOf assignment]
  let target ← (show Parser Phrase from do
    if ← keywordRun ["ON", "CONSTRAINT"] then
      return Phrase.word " ON CONSTRAINT " ++ (← namePhrase)
    if ← peekSymbol "(" then return (identList (← requiredColumns)).parens
    return Phrase.empty)
  expectKeyword "DO"
  if ← keyword "NOTHING" then
    return Phrase.word "ON CONFLICT" ++ target ++ Phrase.word " DO NOTHING"
  expectKeywords ["UPDATE", "SET"]
  let assignments ← listOf assignment
  let condition ← whereClause
  return Phrase.word "ON CONFLICT" ++ target ++
    Phrase.spaced ["DO UPDATE SET", assignments, condition]

/-- Where inserted rows come from. -/
structure InsertSource where
  columns : Phrase := Phrase.empty
  source : Option Query := none
  other : Phrase := Phrase.empty

def insertSource : Parser InsertSource := do
  let d ← dialect
  if ← keywordRun ["DEFAULT", "VALUES"] then return { other := "DEFAULT VALUES" }
  let columns ← (show Parser Phrase from do
    if isSymbol "(" (← peekNth 0) && isKeyword "SELECT" (← peekNth 1) then return Phrase.empty
    let list (p : List Ident) : Phrase := if p.isEmpty then Phrase.empty else (identList p).parens
    let columns ← optionalColumns (d == .mysql)
    let partitions ← if ← keyword "PARTITION" then do
        pure (Phrase.words ["PARTITION", (← parens exprs).parens])
      else pure Phrase.empty
    let others ← if d == .hive then optionalColumns false else pure []
    return Phrase.words [list columns, partitions, list others])
  if ← peekOneOf ["FORMAT", "SETTINGS"] then
    return { columns, other := if columns.isEmpty then "DEFAULT VALUES" else Phrase.empty }
  if ← given d.insertSet (keyword "SET") then
    return { columns, other := Phrase.words ["SET", ← listOf assignment] }
  return { columns, source := some (← query) }

/-- An INSERT after its keyword; `verb` is the one it is written back with. -/
def insertAs (verb : String) : Parser Statement := do
  let d ← dialect
  let choice ← conflictChoice
  let mild := d == .mysql || d == .generic
  let priority ← if mild then oneOf ["LOW_PRIORITY", "DELAYED", "HIGH_PRIORITY"] else pure none
  let ignore ← if mild then flag ["IGNORE"] else pure Phrase.empty
  let overwrite ← flag ["OVERWRITE"]
  let into ← flag ["INTO"]
  let isLocal ← flag ["LOCAL"]
  if ← keyword "DIRECTORY" then
    let path ← literalString
    let format ← if ← keywordRun ["STORED", "AS"] then do
        pure (Phrase.words ["STORED AS", ← fileFormat])
      else pure Phrase.empty
    let source ← queryPhrase
    let target := Phrase.word ("DIRECTORY '" ++ path ++ "'")
    return ⟨Phrase.words ["INSERT", overwrite, isLocal, target, format, source], .other⟩
  let table ← flag ["TABLE"]
  let name ← namePhrase
  let label ← if d == .postgres then after ["AS"] identPhrase else pure Phrase.empty
  let source ← insertSource
  let rowAlias ←
    if ← given mild (keyword "AS") then do
      let name ← namePhrase
      let columns ← optionalColumns false
      pure (Phrase.words
        ["AS", name, if columns.isEmpty then Phrase.empty else (identList columns).parens])
    else pure Phrase.empty
  let conflict ← onInsert
  let returning ← returningClause
  let opening := if choice.isEmpty then
      Phrase.words [verb, priority.getD "", ignore, overwrite, into, table]
    else Phrase.words ["INSERT", choice, "INTO"]
  let rows := match source.source with
    | some q => q.phrase
    | none => source.other
  let text := Phrase.words
    [opening, name, label, source.columns, rows, rowAlias, conflict, returning]
  return {
    phrase := text.mentioning [rows, source.columns, conflict, returning]
    effect := .insert source.source }

def insert : Parser Statement := insertAs "INSERT"

/-! ### UPDATE and DELETE -/

/-- An UPDATE after its keyword. -/
def update : Parser Phrase := do
  let choice ← conflictChoice
  let table ← joinedTables
  let sourceFirst ← after ["FROM"] joinedTables
  expectKeyword "SET"
  let assignments ← listOf assignment
  let source ← if sourceFirst.isEmpty then after ["FROM"] joinedTables else pure Phrase.empty
  let condition ← whereClause
  let returning ← returningClause
  return (Phrase.words ["UPDATE", choice, table, sourceFirst, "SET", assignments, source, condition,
    returning]).mentioning [table, assignments, sourceFirst, source, condition, returning]

/-- A DELETE after its keyword. -/
def delete : Parser Phrase := do
  let d ← dialect
  let opening ← (show Parser Phrase from do
    if ← keyword "FROM" then return "FROM"
    if d == .bigquery || d == .generic then return Phrase.empty
    let tables ← listOf namePhrase
    expectKeyword "FROM"
    return Phrase.words [tables, "FROM"])
  let sources ← listOf joinedTables
  let others ← after ["USING"] (listOf joinedTables)
  let condition ← whereClause
  let returning ← returningClause
  let order ← orderBy
  let limit ← (show Parser Phrase from do
    if !(← keyword "LIMIT") then return Phrase.empty
    if ← keyword "ALL" then return Phrase.empty
    return Phrase.words ["LIMIT", ← expr])
  return Phrase.words ["DELETE", opening, sources, others, condition, returning, order, limit]

/-! ### MERGE -/

def mergeAction (kind : String) : Parser Phrase := do
  let d ← dialect
  let fromTarget := kind == "NOT MATCHED" || kind == "NOT MATCHED BY TARGET"
  let refuse {α : Type} (verb : String) : Parser α :=
    fail (.unexpected (verb ++ " is not allowed in a " ++ kind ++ " merge clause"))
  match ← oneOf ["UPDATE", "INSERT", "DELETE"] with
  | some "UPDATE" =>
    if fromTarget then refuse "UPDATE"
    expectKeyword "SET"
    return Phrase.words ["UPDATE SET", ← listOf assignment]
  | some "DELETE" => if fromTarget then refuse "DELETE" else return "DELETE"
  | some _ =>
    if !fromTarget then refuse "INSERT"
    let columns ← optionalColumns (d == .mysql)
    let columns := if columns.isEmpty then Phrase.empty else (identList columns).parens
    if ← given (d == .bigquery || d == .generic) (keyword "ROW") then
      return Phrase.words ["INSERT", columns, "ROW"]
    expectKeyword "VALUES"
    return Phrase.words ["INSERT", columns, ← rows (d == .mysql)]
  | none => fail (.unexpected "expected UPDATE, DELETE or INSERT in merge clause")

def mergeClause : Parser (Option Phrase) := do
  match ← peekToken with
  | none | some (.symbol ";") => return none
  | some _ =>
    expectKeyword "WHEN"
    let negated ← keyword "NOT"
    expectKeyword "MATCHED"
    let side ← if negated then firstRun [["BY", "SOURCE"], ["BY", "TARGET"]]
      else pure Phrase.empty
    let kind := (Phrase.words [if negated then "NOT" else "", "MATCHED", side]).text
    let condition ← after ["AND"] expr
    expectKeyword "THEN"
    return some (Phrase.words ["WHEN", kind, condition, "THEN", ← mergeAction kind])

/-- A MERGE after its keyword. -/
def merge : Parser Phrase := do
  let into ← flag ["INTO"]
  let table ← tableFactor
  expectKeyword "USING"
  let source ← tableFactor
  expectKeyword "ON"
  let condition ← expr
  let clauses ← many mergeClause
  return Phrase.words ["MERGE", into, table.phrase, "USING", source.phrase, "ON", condition] ++
    Phrase.word " " ++ Phrase.joined " " clauses

/-! ### TRUNCATE -/

def onCluster : Parser Phrase := do
  if !(← keywordRun ["ON", "CLUSTER"]) then return Phrase.empty
  return Phrase.words ["ON CLUSTER", ← identPhrase]

def truncate : Parser Phrase := do
  let d ← dialect
  let table ← flag ["TABLE"]
  let only ← flag ["ONLY"]
  let names ← listOf namePhrase
  let partitions ← if ← keyword "PARTITION" then do
      pure (Phrase.words ["PARTITION", (← parens exprs).parens])
    else pure Phrase.empty
  let careful := d == .postgres || d == .generic
  let identity ←
    if careful then firstRun [["RESTART", "IDENTITY"], ["CONTINUE", "IDENTITY"]]
    else pure Phrase.empty
  let cascade ← if careful then oneOf ["CASCADE", "RESTRICT"] else pure none
  return Phrase.words
    ["TRUNCATE", table, only, names, identity, cascade.getD "", partitions, ← onCluster]

/-! ### COPY -/

def literalCharacter : Parser String := do
  let found ← peek
  let s ← literalString
  if s.utf8ByteSize != 1 then
    fail (.unexpected ("Expect a char, found " ++ Text.debugText s ++ placeText found))
  return "'" ++ s ++ "'"

def truthFlag (k : String) : Parser Phrase := do
  match ← oneOf ["TRUE", "FALSE"] with
  | some "FALSE" => return k ++ " FALSE"
  | _ => return k

def copyOption : Parser Phrase := do
  match ← oneOf ["FORMAT", "FREEZE", "DELIMITER", "NULL", "HEADER", "QUOTE", "ESCAPE",
      "FORCE_QUOTE", "FORCE_NOT_NULL", "FORCE_NULL", "ENCODING"] with
  | some k =>
    if k == "FORMAT" then return Phrase.words [k, ← identPhrase]
    if k == "FREEZE" || k == "HEADER" then return ← truthFlag k
    if k == "DELIMITER" || k == "QUOTE" || k == "ESCAPE" then
      return Phrase.words [k, ← literalCharacter]
    if k == "NULL" || k == "ENCODING" then return Phrase.words [k, ← quotedLiteral]
    return Phrase.words [k, (identList (← requiredColumns)).parens]
  | none => expectedNext "option"

def oldCsvOption : Parser Phrase := do
  match ← oneOf ["HEADER", "QUOTE", "ESCAPE", "FORCE"] with
  | some "HEADER" => return "HEADER"
  | some "FORCE" =>
    if ← keywordRun ["NOT", "NULL"] then
      return Phrase.words ["FORCE NOT NULL", ← listOf identPhrase]
    if ← keyword "QUOTE" then return Phrase.words ["FORCE QUOTE", ← listOf identPhrase]
    expectedNext "option"
  | some k =>
    let _ ← keyword "AS"
    return Phrase.words [k, ← literalCharacter]
  | none => expectedNext "option"

def oldCopyOption : Parser Phrase := do
  match ← oneOf ["BINARY", "DELIMITER", "NULL", "CSV"] with
  | some "BINARY" => return "BINARY"
  | some "DELIMITER" =>
    let _ ← keyword "AS"
    return Phrase.words ["DELIMITER", ← literalCharacter]
  | some "NULL" =>
    let _ ← keyword "AS"
    return Phrase.words ["NULL", ← quotedLiteral]
  | some _ => return Phrase.word "CSV " ++ Phrase.joined " " (← many (attempt oldCsvOption))
  | none => expectedNext "option"

/-- Rows of text up to a backslash and a period, white space counting. -/
def copiedValues : Parser (List String) := do
  let (values, _, _) ← loop ([], "", false) fun (values, content, ended) => do
    if ended then return none
    match tokenOf (← nextRaw) with
    | none => return none
    | some .tab | some .newline => return some (content :: values, "", false)
    | some (.symbol "\\") =>
      if ← symbol "." then return some (values, content, true)
      match tokenOf (← next) with
      | some (.word "N" _ _) => return some ("\\N" :: values, content, false)
      | _ => return some (values, content, false)
    | some t => return some (values, content ++ t.render, false)
  return values.reverse

/-- A COPY after its keyword. -/
def copy : Parser Phrase := do
  let (isQuery, source) ← (show Parser (Bool × Phrase) from do
    if ← peekSymbol "(" then return (true, (← parens queryPhrase).parens)
    let name ← namePhrase
    let columns ← optionalColumns false
    return (false, Phrase.words
      [name, if columns.isEmpty then Phrase.empty else (identList columns).parens]))
  let way ← match ← oneOf ["FROM", "TO"] with
    | some k => pure k
    | none => expectedNext "FROM or TO"
  if isQuery && way == "FROM" then
    fail (.unexpected "COPY ... FROM does not support query as a source")
  let standard ← oneOf ["STDIN", "STDOUT"]
  let target ← match standard with
    | some k => pure (Phrase.word k)
    | none =>
      if ← keyword "PROGRAM" then pure (Phrase.words ["PROGRAM", ← quotedLiteral])
      else quotedLiteral
  let _ ← keyword "WITH"
  let options ← if ← peekSymbol "(" then Phrase.parens <$> parens (listOf copyOption)
    else pure Phrase.empty
  let oldOptions ← many (attempt oldCopyOption)
  let values ← if standard == some "STDIN" then do
      expectSymbol ";"
      copiedValues
    else pure []
  let tail := if values.isEmpty then Phrase.empty
    else Phrase.word (";\n" ++ "\t".intercalate values ++ "\n\\.")
  return Phrase.words ["COPY", source, way, target, options, Phrase.joined " " oldOptions] ++ tail

end SqlLineage.Sql.Parser
