import SqlLineage.Sql.Parser.Maintenance
import SqlLineage.Sql.Parser.Stage

/-! Whole statements, the levels of nesting tied together, and scripts of statements. -/

namespace SqlLineage.Sql

namespace Parser

section

variable [Nesting]

def dealloc : Parser Phrase := do
  let mark ← flag ["PREPARE"]
  return Phrase.words ["DEALLOCATE", mark, ← identPhrase]

def assert : Parser Phrase := do
  let condition ← expr
  return Phrase.words ["ASSERT", condition, ← after ["AS"] expr]

def unlisten : Parser Phrase := do
  if ← symbol "*" then return "UNLISTEN *"
  match ← attempt identPhrase with
  | some channel => return Phrase.words ["UNLISTEN", channel]
  | none => expectedNext "wildcard or identifier"

def notify : Parser Phrase := do
  let channel ← identPhrase
  let payload ← if ← symbol "," then do pure (Phrase.word ", " ++ (← rawLiteral))
    else pure Phrase.empty
  return Phrase.words ["NOTIFY", channel ++ payload]

def startTransaction : Parser Phrase := do
  expectKeyword "TRANSACTION"
  return Phrase.words ["START TRANSACTION", ← transactionModes]

def release : Parser Phrase := do
  let _ ← keyword "SAVEPOINT"
  return Phrase.words ["RELEASE SAVEPOINT", ← identPhrase]

/-- A keyword and the one identifier after it. -/
def named (k : String) : Parser Phrase := return Phrase.words [k, ← identPhrase]

/-- Files moved into a table, after LOAD DATA. -/
def loadData : Parser Phrase := do
  let isLocal ← flag ["LOCAL"]
  expectKeyword "INPATH"
  let path ← rawLiteral
  let overwrite ← flag ["OVERWRITE"]
  expectKeywords ["INTO", "TABLE"]
  let table ← namePhrase
  let partition ← after ["PARTITION"] (return (← parens exprs).parens)
  let format ← if ← keyword "INPUTFORMAT" then do
      let input ← expr
      expectKeyword "SERDE"
      pure (Phrase.words ["INPUTFORMAT", input, "SERDE", ← expr])
    else pure Phrase.empty
  return Phrase.words ["LOAD DATA", isLocal, "INPATH", path, overwrite, "INTO TABLE", table,
    partition, format]

def load : Parser Phrase := do
  let d ← dialect
  if d == .duckdb || d == .postgres || d == .generic then return ← named "LOAD"
  if (← keyword "DATA") && d == .hive then return ← loadData
  expectedNext "\x60DATA\x60 or an extension name after \x60LOAD\x60"

/-- A query that stands as a statement. -/
def queryStatement : Parser Statement := do
  let q ← query
  return { phrase := q.phrase, effect := .query q }

/-- A statement from REPLACE on; `start` is where that word stands. -/
def replaceStatement (start : Stream) : Parser Statement := do
  let d ← dialect
  if d == .sqlite then
    resume start
    insert
  else if d == .mysql || d == .generic then insertAs "REPLACE"
  else fail (.unexpected ("Unsupported statement REPLACE" ++ placeText (← peek)))

/-- The statements without a meaning for lineage, by their first keyword. -/
def plainStatements (d : Dialect) : List (String × Parser Phrase) :=
  [("UPDATE", update), ("DELETE", delete), ("MERGE", merge), ("TRUNCATE", truncate), ("COPY", copy),
    ("ALTER", alter), ("DROP", drop), ("EXPLAIN", explain "EXPLAIN"),
    ("DESCRIBE", explain "DESCRIBE"), ("DESC", explain "DESC"), ("ANALYZE", analyze), ("SET", set),
    ("SHOW", showStatement), ("USE", useStatement), ("GRANT", grant), ("REVOKE", revoke),
    ("START", startTransaction), ("BEGIN", beginStatement), ("END", endStatement),
    ("COMMIT", return Phrase.words ["COMMIT", ← chained]), ("ROLLBACK", rollback),
    ("SAVEPOINT", named "SAVEPOINT"), ("RELEASE", release), ("CALL", callStatement),
    ("EXECUTE", execute), ("EXEC", execute), ("PREPARE", prepare), ("DEALLOCATE", dealloc),
    ("ASSERT", assert), ("CLOSE", close), ("DISCARD", discard), ("KILL", kill), ("PRAGMA", pragma),
    ("MSCK", repair), ("LOAD", load), ("ATTACH", attach), ("RENAME", renameTable),
    ("DECLARE", declare), ("FETCH", fetch), ("FLUSH", flush), ("CACHE", cache),
    ("UNCACHE", uncache), ("UNLOAD", unload), ("RAISERROR", raiseError)] ++
  (if d == .duckdb || d == .generic then [("INSTALL", named "INSTALL"), ("DETACH", detach)]
    else []) ++
  (if d == .generic then [("OPTIMIZE", optimize)] else []) ++
  (if d.commentOn then [("COMMENT", commentOn)] else []) ++
  (if d.listenNotify then
    [("LISTEN", named "LISTEN"), ("UNLISTEN", unlisten), ("NOTIFY", notify)] else [])

/-- CREATE STAGE, or CREATE TABLE where its clauses may stand in any order, after CREATE. Where
something else is created, nothing, and the words that only these may have are taken for read. -/
def freeTable? (start : Stream) : Parser (Option Statement) := do
  let orReplace ← keywordRun ["OR", "REPLACE"]
  let reach ← oneOf ["LOCAL", "GLOBAL"]
  let kind ← oneOf ["TEMP", "TEMPORARY", "VOLATILE", "TRANSIENT"]
  let temporary := kind == some "TEMP" || kind == some "TEMPORARY"
  let m : CreateModifiers :=
    { orReplace := orReplace
      reach := reach.getD ""
      temporary := temporary
      volatile := kind == some "VOLATILE"
      transient := kind == some "TRANSIENT" }
  if ← keyword "STAGE" then return some { phrase := ← createStage m }
  if ← keyword "TABLE" then return some (← freeTable m)
  resume start
  if reach.isSome then let _ ← next
  if kind.isSome && !temporary then let _ ← next
  return none

/-- One statement. -/
@[nospecialize] def oneStatement : Parser Statement := do
  let d ← dialect
  let start ← rest
  if ← given (d == .snowflake) (keyword "CREATE") then
    if let some s ← freeTable? start then return s
  if d == .snowflake then
    if ← keywordRun ["COPY", "INTO"] then return { phrase := ← copyInto }
    for (k, verb) in [("LIST", "LIST"), ("LS", "LIST"), ("REMOVE", "REMOVE"), ("RM", "REMOVE")] do
      if ← keyword k then return { phrase := ← stagedFilesCommand verb }
  if d == .mysql then
    if ← keywordRun ["LOCK", "TABLES"] then
      return { phrase := Phrase.words ["LOCK TABLES", ← listOf lockedTable] }
    if ← keywordRun ["UNLOCK", "TABLES"] then return { phrase := "UNLOCK TABLES" }
  let start ← rest
  let found ← next
  match tokenOf found with
  | some (.word _ k _) =>
    if k == "SELECT" || k == "WITH" || k == "VALUES" then
      resume start
      queryStatement
    else if k == "CREATE" then create
    else if k == "INSERT" then insert
    else if k == "REPLACE" then replaceStatement start
    else match (plainStatements d).lookup k with
      | some p => return { phrase := ← p }
      | none => expected "an SQL statement" found
  | some (.symbol "(") =>
    resume start
    queryStatement
  | _ => expected "an SQL statement" found

end

/-- The grammar with `n` levels of nesting to go. -/
@[reducible] def nesting : Nat → Nesting
  | 0 => ⟨fail .tooDeep, fail .tooDeep, fun _ => fail .tooDeep⟩
  | n + 1 =>
    letI : Nesting := nesting n
    { statement := oneStatement
      query := queryWith (Statement.phrase <$> insert) update
      subexpr := expression }

/-- How many statements, queries and expressions may be in progress at once. -/
def nestingLimit : Nat := 50

def statements : Parser (List Statement) := script (nesting nestingLimit).statement

end Parser

/-- The statements of a text. -/
def parse (d : Dialect) (sql : String) : Except SyntaxError (List Statement) :=
  match lex d sql with
  | .error e => .error (.lexical e)
  | .ok lexemes =>
    match Parser.statements ⟨d, false⟩ lexemes with
    | .ok (found, _) => .ok found
    | .error failure => .error failure.error

end SqlLineage.Sql
