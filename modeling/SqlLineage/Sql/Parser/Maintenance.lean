import SqlLineage.Sql.Parser.Cursor

/-! Upkeep of a server: statistics, caches, files, locks and connections. -/

namespace SqlLineage.Sql.Parser

variable [Nesting]

/-! ### Tables -/

def analyze : Parser Phrase := do
  let table ← flag ["TABLE"]
  let name ← namePhrase
  let (partitions, noscan, columns, cache, compute) ←
    loop (Phrase.empty, Phrase.empty, Phrase.empty, Phrase.empty, Phrase.empty)
      fun (partitions, noscan, columns, cache, compute) => do
        match ← oneOf ["PARTITION", "FOR", "CACHE", "NOSCAN", "COMPUTE"] with
        | some "PARTITION" =>
          let inside ← parens exprs
          return some (Phrase.words ["PARTITION", inside.parens], noscan, columns, cache, compute)
        | some "NOSCAN" => return some (partitions, "NOSCAN", columns, cache, compute)
        | some "FOR" =>
          expectKeyword "COLUMNS"
          let named ← attempt (listOf identPhrase)
          let shown := Phrase.words ["FOR COLUMNS", named.getD Phrase.empty]
          return some (partitions, noscan, shown, cache, compute)
        | some "CACHE" =>
          expectKeyword "METADATA"
          return some (partitions, noscan, columns, "CACHE METADATA", compute)
        | some _ =>
          expectKeyword "STATISTICS"
          return some (partitions, noscan, columns, cache, "COMPUTE STATISTICS")
        | none => return none
  return Phrase.words ["ANALYZE", table, name, partitions, compute, noscan, cache, columns]

def repair : Parser Phrase := do
  let repair ← flag ["REPAIR"]
  expectKeyword "TABLE"
  let name ← namePhrase
  let change ← attempt do
    let change ← oneOf ["ADD", "DROP", "SYNC"]
    expectKeyword "PARTITIONS"
    return Phrase.word ((change.map (· ++ " PARTITIONS")).getD "")
  return Phrase.words ["MSCK", repair, "TABLE", name, change.getD Phrase.empty]

def optimize : Parser Phrase := do
  expectKeyword "TABLE"
  let name ← namePhrase
  let cluster ← onCluster
  let partition ← if ← keyword "PARTITION" then do
      if ← keyword "ID" then pure (Phrase.words ["PARTITION ID", ← identPhrase])
      else pure (Phrase.words ["PARTITION", ← expr])
    else pure Phrase.empty
  let final ← flag ["FINAL"]
  let deduplicate ← if ← keyword "DEDUPLICATE" then do
      pure (Phrase.words ["DEDUPLICATE", ← after ["BY"] expr])
    else pure Phrase.empty
  return Phrase.words ["OPTIMIZE TABLE", name, cluster, partition, final, deduplicate]

def renameTable : Parser Phrase := do
  if !(← keyword "TABLE") then expectedNext "KEYWORD \x60TABLE\x60 after RENAME"
  let pair : Parser Phrase := do
    let old ← namePhrase
    expectKeyword "TO"
    return Phrase.words [old, "TO", ← namePhrase]
  return Phrase.words ["RENAME TABLE", ← listOf pair]

/-- The rows of a query written to files. -/
def unload : Parser Phrase := do
  let q ← parens queryPhrase
  expectKeyword "TO"
  let target ← identPhrase
  return Phrase.words [Phrase.word "UNLOAD" ++ q.parens, "TO", target, ← optionList ["WITH"] " "]

/-! ### Caches -/

/-- What a cached table is filled with, to the end of the text. -/
def cachedRows : Parser Phrase := do
  if (← peek).isNone then return Phrase.empty
  let options ← if ← peekKeyword "OPTIONS" then optionList ["OPTIONS"] "" else pure Phrase.empty
  if (← peek).isNone then return options
  match ← peekToken with
  | some (.word ..) =>
    let as ← flag ["AS"]
    return Phrase.words [options, as, ← queryPhrase]
  | _ => expectedNext "a QUERY statement"

def cache : Parser Phrase := do
  if ← keyword "TABLE" then
    let name ← namePhrase
    return Phrase.words ["CACHE TABLE", name, ← cachedRows]
  let start ← rest
  let mark ← namePhrase
  if ← keyword "TABLE" then
    let name ← namePhrase
    return Phrase.words ["CACHE", mark, "TABLE", name, ← cachedRows]
  let last := (start.filter fun l => !l.token.isBlank).getLast?
  expected "a \x60TABLE\x60 keyword" ((← peek).or last)

def uncache : Parser Phrase := do
  expectKeyword "TABLE"
  let condition ← ifExists
  return Phrase.words ["UNCACHE TABLE", condition, ← namePhrase]

/-- What is done to the tables that are flushed: their names, a lock, an export. The token that
ends the list is read too. -/
def flushedTables : Parser Phrase := do
  let (names, lock, exported, _) ← loop (Phrase.empty, Phrase.empty, Phrase.empty, false)
    fun (names, lock, exported, ended) => do
      if ended then return none
      let start ← rest
      match tokenOf (← next) with
      | some t@(.word _ k _) =>
        if k == "WITH" then
          let lock ← flag ["READ", "LOCK"]
          return some (names, if lock.isEmpty then lock else "WITH READ LOCK", exported, false)
        if k == "FOR" then
          let exported ← flag ["EXPORT"]
          return some (names, lock, if exported.isEmpty then exported else "FOR EXPORT", false)
        if !isPlainWord t then return some (names, lock, exported, false)
        resume start
        return some (← listOf namePhrase, lock, exported, false)
      | _ => return some (names, lock, exported, true)
  return Phrase.words [names, lock, exported]

def flush : Parser Phrase := do
  let d ← dialect
  if !(d == .mysql || d == .generic) then
    fail (.unexpected ("Unsupported statement FLUSH" ++ placeText (← peek)))
  let place ← firstRun [["NO_WRITE_TO_BINLOG"], ["LOCAL"]]
  let kind ← firstRun [["BINARY", "LOGS"], ["ENGINE", "LOGS"], ["ERROR", "LOGS"],
    ["GENERAL", "LOGS"], ["HOSTS"], ["PRIVILEGES"], ["OPTIMIZER_COSTS"], ["RELAY", "LOGS"],
    ["SLOW", "LOGS"], ["STATUS"], ["USER_RESOURCES"], ["LOGS"], ["TABLES"]]
  if kind.isEmpty then
    expectedNext ("BINARY LOGS, ENGINE LOGS, ERROR LOGS, GENERAL LOGS, HOSTS, LOGS, PRIVILEGES, " ++
      "OPTIMIZER_COSTS, RELAY LOGS [FOR CHANNEL channel], SLOW LOGS, STATUS, USER_RESOURCES")
  let more ←
    if kind.text == "TABLES" then flushedTables
    else if kind.text == "RELAY LOGS" then after ["FOR", "CHANNEL"] namePhrase
    else pure Phrase.empty
  return Phrase.words ["FLUSH", place, kind, more]

/-! ### Databases and connections -/

/-- An option of a database that is opened from a file. -/
def attachOption : Parser Phrase := do
  if ← keyword "READ_ONLY" then
    match ← oneOf ["TRUE", "FALSE"] with
    | some "TRUE" => return "READ_ONLY true"
    | some _ => return "READ_ONLY false"
    | none => return "READ_ONLY"
  if ← keyword "TYPE" then return Phrase.words ["TYPE", ← identPhrase]
  expectedNext "expected one of: ), READ_ONLY, TYPE"

def attachOptions : Parser Phrase := do
  if !(← symbol "(") then return Phrase.empty
  let (options, _) ← loop ([], false) fun (options, ended) => do
    if ended then return none
    let option ← attachOption
    if ← symbol ")" then return some (option :: options, true)
    if !(← symbol ",") then expectedNext "expected one of: ')', ','"
    return some (option :: options, false)
  return (Phrase.list options.reverse).parens

def attach : Parser Phrase := do
  let database ← flag ["DATABASE"]
  if (← dialect) == .duckdb then
    let condition ← ifNotExists
    let file ← identPhrase
    let name ← after ["AS"] identPhrase
    return Phrase.words ["ATTACH", database, condition, file, name, ← attachOptions]
  let file ← expr
  expectKeyword "AS"
  return Phrase.words ["ATTACH", database, file, "AS", ← identPhrase]

def detach : Parser Phrase := do
  let database ← flag ["DATABASE"]
  let condition ← ifExists
  return Phrase.words ["DETACH", database, condition, ← identPhrase]

def kill : Parser Phrase := do
  let kind ← oneOf ["CONNECTION", "QUERY", "MUTATION"]
  let id ← countPhrase
  if kind == some "MUTATION" && (← dialect) != .generic then
    expectedNext "Unsupported type for KILL, allowed: CONNECTION | QUERY"
  return Phrase.words ["KILL", kind.getD "", id]

def discard : Parser Phrase := do
  match ← oneOf ["ALL", "PLANS", "SEQUENCES", "TEMP", "TEMPORARY"] with
  | some "TEMPORARY" => return "DISCARD TEMP"
  | some what => return "DISCARD " ++ what
  | none => expectedNext "ALL, PLANS, SEQUENCES, TEMP or TEMPORARY after DISCARD"

/-! ### Locks and errors -/

/-- A table, perhaps under another name, and how it is locked. -/
def lockedTable : Parser Phrase := do
  let table ← identPhrase
  let name ← match ← optionalAlias ["READ", "WRITE", "LOW_PRIORITY"] with
    | some name => pure (Phrase.words ["AS", name.render])
    | none => pure Phrase.empty
  let lock ← firstRun
    [["READ", "LOCAL"], ["READ"], ["WRITE"], ["LOW_PRIORITY", "WRITE"]]
  if lock.isEmpty then expectedNext "an lock type in LOCK TABLES"
  return Phrase.words [table, name, lock]

/-- A message raised by a script. -/
def raiseError : Parser Phrase := do
  expectSymbol "("
  let message ← expr
  expectSymbol ","
  let severity ← expr
  expectSymbol ","
  let state ← expr
  let args ← if ← symbol "," then commaSeparated expr else pure []
  expectSymbol ")"
  let options ← after ["WITH"]
    (listOf (return Phrase.word (← expectOneOf ["LOG", "NOWAIT", "SETERROR"])))
  let inside := Phrase.list ([message, severity, state] ++ args)
  return Phrase.words [Phrase.word "RAISERROR" ++ inside.parens, options]

end SqlLineage.Sql.Parser
