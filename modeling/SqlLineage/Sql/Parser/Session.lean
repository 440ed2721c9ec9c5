import SqlLineage.Sql.Parser.Alter

/-! Statements about the session: settings, transactions, rights, plans, comments. -/

namespace SqlLineage.Sql.Parser

variable [Nesting]

/-! ### SET, SHOW and USE -/

def transactionMode : Parser (Option Phrase) := do
  if ← keywordRun ["ISOLATION", "LEVEL"] then
    for ks in [["READ", "UNCOMMITTED"], ["READ", "COMMITTED"], ["REPEATABLE", "READ"],
        ["SERIALIZABLE"], ["SNAPSHOT"]] do
      if ← keywordRun ks then return some (Phrase.word ("ISOLATION LEVEL " ++ " ".intercalate ks))
    expectedNext "isolation level"
  if ← keywordRun ["READ", "ONLY"] then return some "READ ONLY"
  if ← keywordRun ["READ", "WRITE"] then return some "READ WRITE"
  return none

def transactionModes : Parser Phrase := do
  let (modes, _) ← loop ([], false) fun (modes, required) => do
    match ← transactionMode with
    | some mode => return some (mode :: modes, ← symbol ",")
    | none => if required then expectedNext "transaction mode" else return none
  return Phrase.list modes.reverse

def setRole (modifier : Option String) : Parser Phrase := do
  expectKeyword "ROLE"
  let role ← if ← keyword "NONE" then pure (Phrase.word "NONE") else identPhrase
  return Phrase.words ["SET", modifier.getD "", "ROLE", role]

def settingValue : Parser Phrase := do
  if ← atQuery then return (← queryPhrase).parens
  match ← tolerate expr with
  | some e => return e
  | none => expectedNext "variable value"

def onOrOff : Parser Phrase := do
  match ← oneOf ["ON", "OFF"] with
  | some k => return k
  | none => expectedNext "ON or OFF"

/-- Words that name settings. -/
def settingNames (what : String) : Parser Phrase :=
  listOf do
    let found ← next
    match tokenOf found with
    | some (.word value _ quote) => return Ident.render ⟨value, quote⟩
    | _ => expected what found

/-- Settings of a session that are switched without an equals sign, after SET. -/
def switchedSetting : Parser Phrase := do
  if ← keyword "STATISTICS" then
    match ← oneOf ["IO", "PROFILE", "TIME", "XML"] with
    | some topic => return Phrase.words ["SET STATISTICS", topic, ← onOrOff]
    | none => expectedNext "IO, PROFILE, TIME or XML"
  if ← keyword "IDENTITY_INSERT" then
    let name ← namePhrase
    return Phrase.words ["SET IDENTITY_INSERT", name, ← onOrOff]
  if ← keyword "OFFSETS" then
    let words ← settingNames "SQL keyword"
    return Phrase.words ["SET OFFSETS", words, ← onOrOff]
  let names ← settingNames "Session param name"
  return Phrase.words ["SET", names, (← expr).text]

/-- A SET statement after its keyword. -/
def set : Parser Phrase := do
  let d ← dialect
  let modifier ← oneOf ["SESSION", "LOCAL", "HIVEVAR"]
  if modifier == some "HIVEVAR" then expectSymbol ":"
  else if let some p ← attempt (setRole modifier) then return p
  let several ← if d.parenthesizedSet then symbol "(" else pure false
  let zone ← if several then pure false else keywordRun ["TIME", "ZONE"]
  let start ← rest
  let targets ←
    if several then do
      let names ← commaSeparated identPhrase
      expectSymbol ")"
      pure names
    else if zone then pure [Phrase.word "TIMEZONE"]
    else do pure [← namePhrase]
  let target := if several then (Phrase.list targets).parens else Phrase.list targets
  let name := target.text
  if name.toUpper == "NAMES" && (d == .mysql || d == .generic) then
    if ← keyword "DEFAULT" then return "SET NAMES DEFAULT"
    let charset ← literalString
    let collation ← if ← keyword "COLLATE" then do pure (" COLLATE " ++ (← literalString))
      else pure ""
    return "SET NAMES " ++ charset ++ collation
  let here := if modifier == some "LOCAL" then "LOCAL" else ""
  let assigned ← if ← symbol "=" then pure true else keyword "TO"
  if assigned then
    if several then expectSymbol "("
    let first ← settingValue
    let values ← loop [first] fun values => do
      if ← symbol "," then return some ((← settingValue) :: values) else return none
    if several then expectSymbol ")"
    let values := Phrase.list values.reverse
    let mark := if modifier == some "HIVEVAR" then "HIVEVAR:" else ""
    return Phrase.words ["SET", here, Phrase.word mark ++ target, "=",
      if targets.length > 1 then values.parens else values]
  if several then expectedNext "set variable"
  if name.toUpper == "TIMEZONE" then
    match ← tolerate expr with
    | some e => return Phrase.words ["SET", here, "TIME ZONE", e]
    | none => expectedNext "timezone value"
  if name == "CHARACTERISTICS" then
    expectKeywords ["AS", "TRANSACTION"]
    return Phrase.words ["SET SESSION CHARACTERISTICS AS TRANSACTION", ← transactionModes]
  if name == "TRANSACTION" && modifier.isNone then
    if ← keyword "SNAPSHOT" then return Phrase.words ["SET TRANSACTION SNAPSHOT", ← value]
    return Phrase.words ["SET TRANSACTION", ← transactionModes]
  if !d.setWithoutOperator then expectedNext "equals sign or TO"
  resume start
  let _ ← many do
    if !isSymbol "." (← peekNth 1) then return none
    let _ ← next
    let _ ← next
    return some ()
  switchedSetting

/-- All the words up to the end of the text or an equals sign. -/
def wordsToEnd : Parser (List Phrase) := do
  let (found, _) ← loop ([], false) fun (found, ended) => do
    if ended then return none
    match ← peekToken with
    | none | some (.symbol "=") => return none
    | some (.word value _ quote) =>
      let _ ← next
      return some (Phrase.word (Ident.render ⟨value, quote⟩) :: found, false)
    | some _ =>
      let _ ← next
      return some (found, false)
  return found.reverse

/-- What a SHOW lets through: by a pattern, by a condition or by a name. -/
def showFilter : Parser Phrase := do
  if ← keyword "LIKE" then return Phrase.words ["LIKE", ← quotedLiteral]
  if ← keyword "ILIKE" then return "ILIKE " ++ doubleQuotes '\'' (← literalString)
  if ← keyword "WHERE" then return Phrase.words ["WHERE", ← expr]
  return (← attempt quotedLiteral).getD Phrase.empty

/-- The place that a SHOW looks at. A table and its database may be given apart. -/
def showPlace : Parser Phrase := do
  match ← oneOf ["FROM", "IN"] with
  | none => return Phrase.empty
  | some k =>
    match ← oneOf ["ACCOUNT", "DATABASE", "SCHEMA", "TABLE", "VIEW"] with
    | some kind =>
      let starts := isKeyword "STARTS" (← peekNth 0) && isKeyword "WITH" (← peekNth 1)
      let ends := starts || isKeyword "LIMIT" (← peekNth 0)
      if ends && (kind == "DATABASE" || kind == "SCHEMA") then return Phrase.words [k, kind]
      return Phrase.words [k, kind, (← attempt namePhrase).getD Phrase.empty]
    | none =>
      let name ← objectName
      if (← oneOf ["FROM", "IN"]).isNone then return Phrase.words [k, name.render]
      let database ← identifier
      return Phrase.words [k, ObjectName.render (database :: name)]

/-- Where a SHOW looks, what it lets through and how much of that. -/
def showScope : Parser Phrase := do
  let early ← choice (·.showFilterFirst)
  let before ← if early then showFilter else pure Phrase.empty
  let place ← showPlace
  let behind ← if early then pure Phrase.empty else showFilter
  let starts ← after ["STARTS", "WITH"] value
  let limit ← (show Parser Phrase from do
    if !(← keyword "LIMIT") then return Phrase.empty
    if ← keyword "ALL" then return Phrase.empty
    return Phrase.words ["LIMIT", ← expr])
  let first ← after ["FROM"] value
  return Phrase.words [before, place, starts, limit, first, behind]

/-- A SHOW statement after its keyword. -/
def showStatement : Parser Phrase := do
  let terse ← flag ["TERSE"]
  let extended ← flag ["EXTENDED"]
  let full ← flag ["FULL"]
  let session ← flag ["SESSION"]
  let global ← flag ["GLOBAL"]
  let external ← flag ["EXTERNAL"]
  let shown (ks : List Phrase) : Parser Phrase :=
    return Phrase.words ["SHOW", Phrase.words ks, ← showScope]
  let filtered (ks : List Phrase) : Parser Phrase :=
    return Phrase.words ["SHOW", Phrase.words ks, ← showFilter]
  if (← oneOf ["COLUMNS", "FIELDS"]).isSome then return ← shown [extended, full, "COLUMNS"]
  if ← keyword "TABLES" then
    let history ← if external.isEmpty then flag ["HISTORY"] else pure Phrase.empty
    return ← shown [terse, extended, full, external, "TABLES", history]
  if ← keywordRun ["MATERIALIZED", "VIEWS"] then return ← shown [terse, "MATERIALIZED VIEWS"]
  if ← keyword "VIEWS" then return ← shown [terse, "VIEWS"]
  if ← keyword "FUNCTIONS" then return ← filtered ["FUNCTIONS"]
  if !extended.isEmpty || !full.isEmpty then
    fail (.unexpected "EXTENDED/FULL are not supported with this type of SHOW query")
  if ← keyword "CREATE" then
    let kind ← expectOneOf ["TABLE", "TRIGGER", "FUNCTION", "PROCEDURE", "EVENT", "VIEW"]
    return Phrase.words ["SHOW CREATE", kind, ← namePhrase]
  if ← keyword "COLLATION" then return ← filtered ["COLLATION"]
  let listed ← inDialect [.mysql, .generic]
  if (← keyword "VARIABLES") && listed then return ← filtered [global, session, "VARIABLES"]
  if (← keyword "STATUS") && listed then return ← filtered [session, global, "STATUS"]
  for k in ["DATABASES", "SCHEMAS"] do
    if ← keyword k then
      let history ← flag ["HISTORY"]
      return ← shown [terse, k, history]
  return Phrase.words ["SHOW", Phrase.words (← wordsToEnd)]

def useStatement : Parser Phrase := do
  let d ← dialect
  if ← given (d == .hive) (keyword "DEFAULT") then return "USE DEFAULT"
  let kind ← match d with
    | .databricks => oneOf ["CATALOG", "DATABASE", "SCHEMA"]
    | .snowflake => oneOf ["DATABASE", "SCHEMA", "WAREHOUSE", "ROLE", "SECONDARY"]
    | _ => pure none
  if kind == some "SECONDARY" then
    let _ ← expectOneOf ["ROLES", "ROLE"]
    if let some k ← oneOf ["ALL", "NONE"] then return "USE SECONDARY ROLES " ++ k
    return Phrase.words ["USE SECONDARY ROLES", ← listOf identPhrase]
  return Phrase.words ["USE", kind.getD "", ← namePhrase]

/-! ### Transactions -/

def chained : Parser Phrase := do
  let _ ← oneOf ["TRANSACTION", "WORK"]
  if !(← keyword "AND") then return Phrase.empty
  let negated ← keyword "NO"
  expectKeyword "CHAIN"
  return if negated then Phrase.empty else "AND CHAIN"

def beginStatement : Parser Phrase := do
  let modifier ← if (← dialect).transactionModifier then
      oneOf ["DEFERRED", "IMMEDIATE", "EXCLUSIVE", "TRY", "CATCH"]
    else pure none
  let kind ← oneOf ["TRANSACTION", "WORK"]
  return Phrase.words ["BEGIN", modifier.getD "", kind.getD "", ← transactionModes]

def endStatement : Parser Phrase := do
  let modifier ← if (← dialect) == .mssql then oneOf ["TRY", "CATCH"] else pure none
  return Phrase.words ["END", modifier.getD "", ← chained]

def rollback : Parser Phrase := do
  let chain ← chained
  let savepoint ← if ← keyword "TO" then do
      let _ ← keyword "SAVEPOINT"
      pure (Phrase.words ["TO SAVEPOINT", ← identPhrase])
    else pure Phrase.empty
  return Phrase.words ["ROLLBACK", chain, savepoint]

/-! ### Rights -/

def privileges : List String :=
  ["CONNECT", "CREATE", "DELETE", "EXECUTE", "INSERT", "REFERENCES", "SELECT", "TEMPORARY",
    "TRIGGER", "TRUNCATE", "UPDATE", "USAGE"]

def privilege : Parser Phrase := do
  match ← oneOf privileges with
  | none => expectedNext "a privilege keyword"
  | some k =>
    let columns ← if ["INSERT", "REFERENCES", "SELECT", "UPDATE"].contains k then
        optionalColumns false else pure []
    return Phrase.words [k, identsInParens columns]

/-- What is granted and on which objects. -/
def grantedRights : Parser Phrase := do
  let rights ← if ← keyword "ALL" then
      if ← keyword "PRIVILEGES" then pure (Phrase.word "ALL PRIVILEGES")
      else pure (Phrase.word "ALL")
    else do pure (Phrase.list (← separatedWith (← choice (· == .duckdb)) ["ON"] privilege))
  expectKeyword "ON"
  for ks in [["ALL", "TABLES", "IN", "SCHEMA"], ["ALL", "SEQUENCES", "IN", "SCHEMA"]] do
    if ← keywordRun ks then
      return Phrase.words [rights, "ON", " ".intercalate ks, ← listOf namePhrase]
  let kind ← oneOf ["SEQUENCE", "SCHEMA", "TABLE"]
  let names ← listOf starredName
  let shown := match kind with
    | some "TABLE" | none => ""
    | some k => k
  return Phrase.words [rights, "ON", shown, names]

def granteeKinds : List (List String) :=
  [["ROLE"], ["USER"], ["SHARE"], ["GROUP"], ["PUBLIC"], ["DATABASE", "ROLE"],
    ["APPLICATION", "ROLE"], ["APPLICATION"]]

/-- Somebody who is given rights, and of what kind; the kind of the one before stands if none is
given, and the public has no name. -/
def grantee (before : Phrase) : Parser (Phrase × Phrase) := do
  let named ← firstRun granteeKinds
  let kind := if named.isEmpty then before else named
  if kind.text == "PUBLIC" then return ("PUBLIC ", kind)
  let (name, host) ← granteeName
  if !(← symbol ":") then return (Phrase.words [kind, granteeText name host], kind)
  let inside ← identifier
  let spaced := ObjectName.render (name.take 1) ++ ":" ++ inside.render
  return (Phrase.words [kind, if host.isSome then granteeText name host else spaced], kind)

def grantees : Parser Phrase := do
  let (first, kind) ← grantee Phrase.empty
  let (found, _) ← loop ([first], kind) fun (found, kind) => do
    if !(← symbol ",") then return none
    let (one, kind) ← grantee kind
    return some (one :: found, kind)
  return Phrase.list found.reverse

def grant : Parser Phrase := do
  let rights ← grantedRights
  expectKeyword "TO"
  let grantees ← grantees
  let option ← flag ["WITH", "GRANT", "OPTION"]
  let grantor ← after ["GRANTED", "BY"] identPhrase
  return Phrase.words ["GRANT", rights, "TO", grantees, option, grantor]

def revoke : Parser Phrase := do
  let rights ← grantedRights
  expectKeyword "FROM"
  let grantees ← grantees
  let grantor ← after ["GRANTED", "BY"] identPhrase
  let behavior := (← oneOf ["RESTRICT", "CASCADE"]).getD ""
  return Phrase.words ["REVOKE", rights, "FROM", grantees, grantor, behavior]

/-! ### Plans and comments -/

/-- One option of EXPLAIN in parentheses: a name and, perhaps, a value. -/
def planOption : Parser Phrase := do
  let name ← identPhrase
  match ← peekToken with
  | some (.symbol ",") | some (.symbol ")") => return name
  | _ => return Phrase.words [name, ← expr]

/-- EXPLAIN, DESCRIBE or DESC after its keyword `verb`. -/
def explain (verb : String) : Parser Phrase := do
  let d ← dialect
  let options ← (show Parser Phrase from do
    if verb == "EXPLAIN" && d.explainOptions && (← peekSymbol "(") then
      return (← parens (listOf planOption)).parens
    if ← keywordRun ["QUERY", "PLAN"] then return "QUERY PLAN"
    if ← keyword "ESTIMATE" then return "ESTIMATE"
    let analyze ← flag ["ANALYZE"]
    let verbose ← flag ["VERBOSE"]
    let format ← if ← keyword "FORMAT" then
        match ← oneOf ["TEXT", "JSON", "GRAPHVIZ"] with
        | some k => pure (Phrase.word ("FORMAT " ++ k))
        | none => expectedNext "fileformat"
      else pure Phrase.empty
    return Phrase.words [analyze, verbose, format])
  let nested ← peekOneOf ["EXPLAIN", "DESCRIBE", "DESC"]
  match ← attempt statement with
  | some s =>
    if nested then fail (.unexpected "Explain must be root of the plan")
    return Phrase.words [verb, options, s.phrase]
  | none =>
    let format ← oneOf ["EXTENDED", "FORMATTED"]
    let table ← if d.describeNeedsTable then flag ["TABLE"] else pure Phrase.empty
    return Phrase.words [verb, format.getD "", table, ← namePhrase]

def commentOn : Parser Phrase := do
  let condition ← ifExists
  expectKeyword "ON"
  let kind ← match ← oneOf ["COLUMN", "TABLE", "EXTENSION", "SCHEMA", "DATABASE", "USER",
      "ROLE"] with
    | some k => pure k
    | none => expectedNext "comment object_type"
  let name ← namePhrase
  expectKeyword "IS"
  let text ← if ← keyword "NULL" then pure (Phrase.word "NULL") else rawLiteral
  return Phrase.words ["COMMENT", condition, "ON", kind, name, "IS", text]

/-! ### Calls and prepared statements -/

def callStatement : Parser Phrase := do
  let name ← objectName
  if ← peekSymbol "(" then return Phrase.words ["CALL", ← call interval name.render]
  return "CALL " ++ name.render

def execute : Parser Phrase := do
  let name ← namePhrase
  let inParens ← symbol "("
  let stop : Parser Bool := do
    if inParens then peekSymbol ")" else
      match ← peekToken with
      | none | some (.symbol ";") => return true
      | some t => return Parser.isKeyword "USING" (some t)
  let parameters ← if ← stop then pure [] else commaSeparated expr
  if inParens then expectSymbol ")"
  let values := Phrase.list parameters
  let values := if inParens then values.parens else values
  let given ← after ["USING"] (return Phrase.list (← separatedWith false [] expr))
  return Phrase.words ["EXECUTE", name ++ (if inParens then values else Phrase.empty),
    if inParens then Phrase.empty else values, given]

def prepare : Parser Phrase := do
  let name ← identPhrase
  let types ← if ← symbol "(" then do
      let types ← listOf typePhrase
      expectSymbol ")"
      pure types.parens
    else pure Phrase.empty
  expectKeyword "AS"
  let s ← statement
  return Phrase.words ["PREPARE", name, types, "AS", s.phrase]

def pragmaValue : Parser Phrase := do
  let start ← rest
  let found ← peek
  let text ← value
  match tokenOf found with
  | some (.word _ k _) =>
    if !k.isEmpty then
      resume start
      expected "number or string or ? placeholder" found
    return text
  | some (.text form _) =>
    if form != .single && form != .double then
      resume start
      expected "number or string or ? placeholder" found
    return text
  | some (.dollarText ..) =>
    resume start
    expected "number or string or ? placeholder" found
  | _ => return text

def pragma : Parser Phrase := do
  let name ← namePhrase
  if ← symbol "(" then
    let text ← pragmaValue
    expectSymbol ")"
    return Phrase.words ["PRAGMA", name ++ text.parens]
  if ← symbol "=" then return Phrase.words ["PRAGMA", name, "=", ← pragmaValue]
  return Phrase.words ["PRAGMA", name]

end SqlLineage.Sql.Parser
