import SqlLineage.Sql.Parser.Create

/-! ALTER and DROP. -/

namespace SqlLineage.Sql.Parser

variable [Nesting]

/-! ### ALTER TABLE -/

def dropBehavior : Parser Phrase := return (← oneOf ["CASCADE", "RESTRICT"]).getD ""

def columnPosition : Parser Phrase := do
  let d ← dialect
  if !(d == .mysql || d == .generic) then return Phrase.empty
  if ← keyword "FIRST" then return "FIRST"
  after ["AFTER"] identPhrase

def partitionExprs : Parser Phrase :=
  return Phrase.words ["PARTITION", (← parens exprs).parens]

/-- A query kept beside the rows of a table, after ADD PROJECTION. -/
def addProjection : Parser Phrase := do
  let condition ← ifNotExists
  let name ← identPhrase
  let source : Parser Phrase := do
    expectKeyword "SELECT"
    let items ← selectItems
    let groups ← groupBy
    return Phrase.words ["SELECT", items, groups, ← queryOrder]
  return Phrase.words ["ADD PROJECTION", condition, name, (← parens source).parens]

/-- What is done with a query kept beside the rows, after the verb and PROJECTION. -/
def projectionOperation (verb : String) : Parser Phrase := do
  let condition ← ifExists
  let name ← identPhrase
  let partition ← if verb == "DROP" then pure Phrase.empty
    else after ["IN", "PARTITION"] identPhrase
  return Phrase.words [verb, "PROJECTION", condition, name, partition]

def addOperation : Parser Phrase := do
  let d ← dialect
  if let some p ← tableConstraint then return Phrase.words ["ADD", p]
  if ← given (d == .generic) (keyword "PROJECTION") then return ← addProjection
  let condition ← ifNotExists
  let partitions ← many do
    if ← keyword "PARTITION" then return some (← partitionExprs) else return none
  if !partitions.isEmpty then
    return Phrase.words ["ADD", condition, Phrase.words partitions]
  let column ← flag ["COLUMN"]
  let condition ←
    if d == .postgres || d == .bigquery || d == .duckdb || d == .generic then do
      let later ← ifNotExists
      pure (if later.isEmpty then condition else later)
    else pure Phrase.empty
  let definition ← columnDefinition
  return Phrase.words ["ADD", column, condition, definition, ← columnPosition]

def renameOperation : Parser Phrase := do
  let pair (k : String) : Parser Phrase := do
    let old ← identPhrase
    expectKeyword "TO"
    return Phrase.words ["RENAME", k, old, "TO", ← identPhrase]
  if ← given ((← dialect) == .postgres) (keyword "CONSTRAINT") then return ← pair "CONSTRAINT"
  if ← keyword "TO" then return Phrase.words ["RENAME TO", ← namePhrase]
  let _ ← keyword "COLUMN"
  pair "COLUMN"

def switchOperation (verb : String) : Parser Phrase := do
  let modes := if verb == "ENABLE" then ["ALWAYS", "REPLICA"] else []
  for mode in modes do
    for k in ["RULE", "TRIGGER"] do
      if ← keywordRun [mode, k] then return Phrase.words [verb, mode, k, ← identPhrase]
  if ← keywordRun ["ROW", "LEVEL", "SECURITY"] then return verb ++ " ROW LEVEL SECURITY"
  for k in ["RULE", "TRIGGER"] do
    if ← keyword k then return Phrase.words [verb, k, ← identPhrase]
  if verb == "ENABLE" then
    expectedNext "ALWAYS, REPLICA, ROW LEVEL SECURITY, RULE, or TRIGGER after ENABLE"
  else expectedNext "ROW LEVEL SECURITY, RULE, or TRIGGER after DISABLE"

def dropOperation : Parser Phrase := do
  let d ← dialect
  if ← keywordRun ["IF", "EXISTS", "PARTITION"] then
    return Phrase.words ["DROP IF EXISTS", ← partitionExprs]
  if ← keyword "PARTITION" then return Phrase.words ["DROP", ← partitionExprs]
  if ← keyword "CONSTRAINT" then
    let condition ← ifExists
    let name ← identPhrase
    return Phrase.words ["DROP CONSTRAINT", condition, name, ← dropBehavior]
  if (← keywordRun ["PRIMARY", "KEY"]) && (d == .mysql || d == .generic) then
    return "DROP PRIMARY KEY"
  if (← keyword "PROJECTION") && d == .generic then return ← projectionOperation "DROP"
  if ← keywordRun ["CLUSTERING", "KEY"] then return "DROP CLUSTERING KEY"
  let _ ← keyword "COLUMN"
  let condition ← ifExists
  let name ← identPhrase
  return Phrase.words ["DROP COLUMN", condition, name, ← dropBehavior]

def columnOptions : Parser Phrase := return Phrase.words (← many columnOption)

/-- The numbers that a column is to take, after ADD GENERATED. -/
def addGenerated : Parser Phrase := do
  let kind ← firstRun [["ALWAYS"], ["BY", "DEFAULT"]]
  expectKeywords ["AS", "IDENTITY"]
  let options ← if ← symbol "(" then do
      let options ← sequenceOptions
      expectSymbol ")"
      pure (Phrase.word " (" ++ options ++ Phrase.word " )")
    else pure Phrase.empty
  return Phrase.words ["ADD GENERATED", kind, "AS IDENTITY"] ++ options

def alterColumn : Parser Phrase := do
  let postgres ← choice (· == .postgres)
  let _ ← keyword "COLUMN"
  let name ← identPhrase
  let op ← (show Parser Phrase from do
    if ← keywordRun ["SET", "NOT", "NULL"] then return "SET NOT NULL"
    if ← keywordRun ["DROP", "NOT", "NULL"] then return "DROP NOT NULL"
    if ← keywordRun ["SET", "DEFAULT"] then return Phrase.words ["SET DEFAULT", ← expr]
    if ← keywordRun ["DROP", "DEFAULT"] then return "DROP DEFAULT"
    let typed ← if ← keywordRun ["SET", "DATA", "TYPE"] then pure true
      else if postgres then keyword "TYPE" else pure false
    if typed then
      let type ← typePhrase
      let conversion ← if postgres then after ["USING"] expr else pure Phrase.empty
      return Phrase.words ["SET DATA TYPE", type, conversion]
    if ← keywordRun ["ADD", "GENERATED"] then return ← addGenerated
    let last := if postgres then "SET DATA TYPE, or ADD GENERATED" else "or SET DATA TYPE"
    expectedNext ("SET/DROP NOT NULL, SET DEFAULT, " ++ last ++ " after ALTER COLUMN"))
  return Phrase.words ["ALTER COLUMN", name, op]

/-- What is done with a stored part of a table, after the verb. -/
def storedPartOperation (verb : String) : Parser Phrase := do
  let kind ← expectOneOf ["PART", "PARTITION"]
  let e ← expr
  let name ← if (verb == "FREEZE" || verb == "UNFREEZE") && (← peekKeyword "WITH") then do
      expectKeywords ["WITH", "NAME"]
      pure (Phrase.words ["WITH NAME", ← identPhrase])
    else pure Phrase.empty
  return Phrase.words [verb, kind, e, name]

def tableOperation : Parser Phrase := do
  let d ← dialect
  if ← keyword "ADD" then return ← addOperation
  if ← keyword "RENAME" then return ← renameOperation
  if let some k ← oneOf ["DISABLE", "ENABLE"] then return ← switchOperation k
  for verb in ["CLEAR", "MATERIALIZE"] do
    if (← keywordRun [verb, "PROJECTION"]) && d == .generic then
      return ← projectionOperation verb
  if ← keyword "DROP" then return ← dropOperation
  if ← keyword "PARTITION" then
    let before ← partitionExprs
    expectKeyword "RENAME"
    expectKeywords ["TO", "PARTITION"]
    return Phrase.words [before, "RENAME TO", ← partitionExprs]
  if ← keyword "CHANGE" then
    let _ ← keyword "COLUMN"
    let old ← identPhrase
    let new ← identPhrase
    let type ← typePhrase
    let options ← columnOptions
    return Phrase.words ["CHANGE COLUMN", old, new, type, options, ← columnPosition]
  if ← keyword "MODIFY" then
    let _ ← keyword "COLUMN"
    let name ← identPhrase
    let type ← typePhrase
    let options ← columnOptions
    return Phrase.words ["MODIFY COLUMN", name, type, options, ← columnPosition]
  if ← keyword "ALTER" then return ← alterColumn
  if ← keyword "SWAP" then
    expectKeyword "WITH"
    return Phrase.words ["SWAP WITH", ← namePhrase]
  if ← given (d == .postgres || d == .generic) (keywordRun ["OWNER", "TO"]) then
    return Phrase.words ["OWNER TO", ← owner]
  if d == .generic then
    if let some verb ← oneOf ["ATTACH", "DETACH", "FREEZE", "UNFREEZE"] then
      return ← storedPartOperation verb
  if ← keywordRun ["CLUSTER", "BY"] then
    return Phrase.words ["CLUSTER BY", (← parens exprs).parens]
  if ← keywordRun ["SUSPEND", "RECLUSTER"] then return "SUSPEND RECLUSTER"
  if ← keywordRun ["RESUME", "RECLUSTER"] then return "RESUME RECLUSTER"
  let properties ← optionList ["SET", "TBLPROPERTIES"] ""
  if !properties.isEmpty then return properties
  expectedNext "ADD, RENAME, PARTITION, SWAP, DROP, or SET TBLPROPERTIES after ALTER TABLE"

def alterTable : Parser Phrase := do
  let condition ← ifExists
  let only ← flag ["ONLY"]
  let name ← namePhrase
  let cluster ← onCluster
  let operations ← listOf tableOperation
  let near ← after ["LOCATION"] identPhrase
  let location ← if near.isEmpty then after ["SET", "LOCATION"] identPhrase else pure near
  return Phrase.words ["ALTER TABLE", condition, only, name, cluster, operations, location]

/-! ### Other ALTER statements -/

def alterView : Parser Phrase := do
  let name ← namePhrase
  let columns ← optionalColumns false
  let options ← optionList ["WITH"] " "
  expectKeyword "AS"
  return Phrase.words ["ALTER VIEW", name, identsInParens columns, options, "AS", ← queryPhrase]

def alterIndex : Parser Phrase := do
  let name ← namePhrase
  if !(← keyword "RENAME") then expectedNext "RENAME after ALTER INDEX"
  if !(← keyword "TO") then expectedNext "TO after RENAME"
  return Phrase.words ["ALTER INDEX", name, "RENAME TO", ← namePhrase]

/-- An ALTER statement after its keyword. -/
def alter : Parser Phrase := do
  match ← expectOneOf ["VIEW", "TABLE", "INDEX", "ROLE", "POLICY"] with
  | "VIEW" => alterView
  | "TABLE" => alterTable
  | "INDEX" => alterIndex
  | "ROLE" => alterRole
  | _ => alterPolicy

/-! ### DROP -/

def droppable : List String :=
  ["TABLE", "VIEW", "INDEX", "ROLE", "SCHEMA", "DATABASE", "SEQUENCE", "STAGE", "TYPE"]

/-- DROP SECRET after its keywords; `kind` is what stands between them. -/
def dropSecret (kind : Phrase) : Parser Phrase := do
  let condition ← ifExists
  let name ← identPhrase
  let place ← if ← keyword "FROM" then do
      pure ((← tolerate identPhrase).map fun i => Phrase.words ["FROM", i])
    else pure none
  return Phrase.words ["DROP", kind, "SECRET", condition, name, place.getD Phrase.empty]

/-- A DROP statement after its keyword. -/
def drop : Parser Phrase := do
  let d ← dialect
  let temporary ← if d == .mysql || d == .generic || d == .duckdb then flag ["TEMPORARY"]
    else pure Phrase.empty
  let persistent ← if d == .duckdb then flag ["PERSISTENT"] else pure Phrase.empty
  let start ← rest
  match ← oneOf droppable with
  | some kind =>
    let condition ← ifExists
    let names ← listOf namePhrase
    let place := placeText (← peek)
    let cascade ← flag ["CASCADE"]
    let restrict ← flag ["RESTRICT"]
    let purge ← flag ["PURGE"]
    if !cascade.isEmpty && !restrict.isEmpty then
      fail (.unexpected ("Cannot specify both CASCADE and RESTRICT in DROP" ++ place))
    if kind == "ROLE" && !(cascade.isEmpty && restrict.isEmpty && purge.isEmpty) then
      fail (.unexpected ("Cannot specify CASCADE, RESTRICT, or PURGE in DROP ROLE" ++ place))
    return Phrase.words ["DROP", temporary, kind, condition, names, cascade, restrict, purge]
  | none =>
    match ← oneOf ["FUNCTION", "PROCEDURE", "SECRET", "TRIGGER", "POLICY", "EXTENSION"] with
    | some "SECRET" =>
      let dropped ← dropSecret (Phrase.words [temporary, persistent])
      if !temporary.isEmpty && !persistent.isEmpty then expectedNext "TEMPORARY or PERSISTENT"
      return dropped
    | some "TRIGGER" =>
      if !(d == .postgres || d == .generic) then
        resume start
        expectedNext "an object type after DROP"
      let condition ← ifExists
      let name ← namePhrase
      expectKeyword "ON"
      let table ← namePhrase
      return Phrase.words ["DROP TRIGGER", condition, name, "ON", table, ← dropBehavior]
    | some "POLICY" =>
      let condition ← ifExists
      let name ← identPhrase
      expectKeyword "ON"
      let table ← namePhrase
      return Phrase.words ["DROP POLICY", condition, name, "ON", table, ← dropBehavior]
    | some "EXTENSION" =>
      let condition ← ifExists
      let names ← listOf identPhrase
      return Phrase.words ["DROP EXTENSION", condition, names, ← dropBehavior]
    | some kind =>
      let condition ← ifExists
      let names ← listOf functionSignature
      return Phrase.words ["DROP", kind, condition, names, ← dropBehavior]
    | none => expectedNext ("DATABASE, EXTENSION, FUNCTION, INDEX, POLICY, PROCEDURE, ROLE, " ++
        "SCHEMA, SECRET, SEQUENCE, STAGE, TABLE, TRIGGER, TYPE, or VIEW after DROP")

end SqlLineage.Sql.Parser
