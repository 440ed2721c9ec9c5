import SqlLineage.Sql.Parser.Column

/-! CREATE TABLE. -/

namespace SqlLineage.Sql

/-- The words between CREATE and the kind of object. -/
structure CreateModifiers where
  orReplace : Bool := false
  orAlter : Bool := false
  /-- GLOBAL or LOCAL. -/
  reach : String := ""
  temporary : Bool := false
  transient : Bool := false
  volatile : Bool := false
  persistent : Bool := false
  /-- How a view is worked out and on whose behalf. -/
  viewParameters : Phrase := Phrase.empty

namespace CreateModifiers

def replaceText (m : CreateModifiers) : String := if m.orReplace then "OR REPLACE" else ""

def temporaryText (m : CreateModifiers) : String := if m.temporary then "TEMPORARY" else ""

end CreateModifiers

namespace Parser

variable [Nesting]

/-- A table definition in parts, in the order in which they are written back. -/
structure TableDefinition where
  modifiers : CreateModifiers
  ifNotExists : Phrase
  name : ObjectName
  cluster : Phrase := Phrase.empty
  columns : List Phrase := []
  constraints : List Phrase := []
  like : Phrase := Phrase.empty
  clone : Phrase := Phrase.empty
  /-- Between the columns and LIKE. -/
  early : Phrase := Phrase.empty
  /-- How and where the rows are kept, after LIKE. -/
  stored : Phrase := Phrase.empty
  /-- Between that and the query. -/
  late : Phrase := Phrase.empty
  query : Option Query := none

def TableDefinition.statement (t : TableDefinition) : Statement :=
  let m := t.modifiers
  let elements := t.columns ++ t.constraints
  let list := if !elements.isEmpty then (Phrase.list elements).parens
    else if t.query.isNone && t.like.isEmpty && t.clone.isEmpty then Phrase.word "()"
    else Phrase.empty
  let body := match t.query with
    | some q => Phrase.words ["AS", q.phrase]
    | none => Phrase.empty
  let phrase := Phrase.words ["CREATE", m.replaceText, m.reach, m.temporaryText,
    if m.transient then "TRANSIENT" else "", if m.volatile then "VOLATILE" else "", "TABLE",
    t.ifNotExists, t.name.render, t.cluster, list, t.early, t.like, t.clone, t.stored, t.late,
    body]
  { phrase := phrase.mentioning [list, t.early, t.stored, body, t.late]
    effect := .createTable t.name t.query }

/-! ### Clauses after the columns -/

def partitionedBy : Parser Phrase := do
  if !(← keywordRun ["PARTITIONED", "BY"]) then return Phrase.empty
  return Phrase.words ["PARTITIONED BY", (← parens (listOf columnDefinition)).parens]

def clusteredBy : Parser Phrase := do
  if !(← inDialect [.hive, .generic]) then return Phrase.empty
  if !(← keywordRun ["CLUSTERED", "BY"]) then return Phrase.empty
  let columns ← requiredColumns
  let sorted ← if ← keywordRun ["SORTED", "BY"] then do
      pure (Phrase.words ["SORTED BY", (← parens (listOf sortKey)).parens])
    else pure Phrase.empty
  expectKeyword "INTO"
  let buckets ← numberValue
  expectKeyword "BUCKETS"
  return Phrase.words
    ["CLUSTERED BY", (identList columns).parens, sorted, "INTO", buckets, "BUCKETS"]

/-- What divides the parts of a row in a file: the word it starts with and the others. -/
def rowDelimiters : List (String × List String) :=
  [("FIELDS", ["TERMINATED", "BY"]), ("COLLECTION", ["ITEMS", "TERMINATED", "BY"]),
    ("MAP", ["KEYS", "TERMINATED", "BY"]), ("LINES", ["TERMINATED", "BY"]),
    ("NULL", ["DEFINED", "AS"])]

/-- The first word of a delimiter is taken even if the others do not follow. -/
def rowDelimiter : Parser (Option Phrase) := do
  match ← oneOf (rowDelimiters.map Prod.fst) with
  | none => return none
  | some k =>
    let ks := (rowDelimiters.lookup k).getD []
    if !(← keywordRun ks) then return none
    let text := Phrase.words [" ".intercalate (k :: ks), ← identPhrase]
    let escape ← if k == "FIELDS" then after ["ESCAPED", "BY"] identPhrase else pure Phrase.empty
    return some (Phrase.words [text, escape])

def rowFormat : Parser Phrase := do
  expectKeyword "FORMAT"
  match ← oneOf ["SERDE", "DELIMITED"] with
  | some "SERDE" => return Phrase.words ["ROW FORMAT SERDE", ← rawLiteral]
  | _ => return Phrase.words ["ROW FORMAT DELIMITED", Phrase.words (← many rowDelimiter)]

/-- How the rows of a table are stored. -/
structure Storage where
  rowFormat : Phrase := Phrase.empty
  /-- Classes that read and write the files. -/
  classes : Phrase := Phrase.empty
  /-- The format of the files by its name. -/
  format : Phrase := Phrase.empty
  properties : Phrase := Phrase.empty
  location : Phrase := Phrase.empty

def storage : Parser Storage :=
  loop {} fun s => do
    if ← keyword "ROW" then return some { s with rowFormat := ← rowFormat }
    if ← keyword "STORED" then
      expectKeyword "AS"
      if ← keyword "INPUTFORMAT" then
        let input ← expr
        expectKeyword "OUTPUTFORMAT"
        let classes := Phrase.words ["STORED AS INPUTFORMAT", input, "OUTPUTFORMAT", ← expr]
        return some { s with classes := classes, format := Phrase.empty }
      let format := Phrase.words ["STORED AS", ← fileFormat]
      return some { s with classes := Phrase.empty, format := format }
    if ← keyword "LOCATION" then
      return some { s with location := Phrase.words ["LOCATION", ← rawLiteral] }
    let properties ← optionList ["WITH", "SERDEPROPERTIES"] " "
    if !properties.isEmpty then return some { s with properties := properties }
    return none

def engine : Parser Phrase := do
  if !(← keyword "ENGINE") then return Phrase.empty
  expectSymbol "="
  let found ← next
  match tokenOf found with
  | some (.word name _ _) =>
    if ← peekSymbol "(" then
      return Phrase.word ("ENGINE=" ++ name) ++ (identList (← columnList)).parens
    return "ENGINE=" ++ name
  | _ => expected "identifier" found

def autoIncrement : Parser Phrase := do
  if !(← keyword "AUTO_INCREMENT") then return Phrase.empty
  let _ ← symbol "="
  let found ← next
  match tokenOf found with
  | some (.number digits _) =>
    return "AUTO_INCREMENT " ++ toString (← countOf 32 digits (placeText found))
  | _ => expected "literal int" found

def tableOrder : Parser Phrase := do
  if !(← keywordRun ["ORDER", "BY"]) then return Phrase.empty
  if !(← symbol "(") then return Phrase.words ["ORDER BY", ← expr]
  let keys ← if ← peekSymbol ")" then pure Phrase.empty else exprs
  expectSymbol ")"
  return Phrase.words ["ORDER BY", keys.parens]

/-- A word after an equals sign, written back after `opening`. -/
def equalsWord (ks : List String) : Parser Phrase := do
  if !(← keywordRun ks) then return Phrase.empty
  expectSymbol "="
  let found ← next
  match tokenOf found with
  | some (.word name _ _) => return " ".intercalate ks ++ "=" ++ name
  | _ => expected "identifier" found

def onCommit : Parser Phrase := do
  if !(← keywordRun ["ON", "COMMIT"]) then return Phrase.empty
  for ks in [["DELETE", "ROWS"], ["PRESERVE", "ROWS"], ["DROP"]] do
    if ← keywordRun ks then return "ON COMMIT " ++ " ".intercalate ks
  let found := (← peekToken).map Token.render
  fail (.unexpected ("Expecting DELETE ROWS, PRESERVE ROWS or DROP" ++ found.getD "EOF"))

/-- A comment, with or without an equals sign. -/
def inlineComment : Parser Phrase := do
  if !(← keyword "COMMENT") then return Phrase.empty
  let equals ← symbol "="
  let text ← quotedString "comment"
  return "COMMENT " ++ (if equals then "= " else "") ++ "'" ++ text ++ "'"

/-- The clauses of a warehouse table: partitions, clusters, options. -/
def tableLayout : Parser Phrase := do
  let d ← dialect
  let partition ← if d == .bigquery || d == .postgres || d == .generic then
      after ["PARTITION", "BY"] expr else pure Phrase.empty
  if !(d == .bigquery || d == .generic) then return partition
  let cluster ← after ["CLUSTER", "BY"] (listOf identPhrase)
  return Phrase.words [partition, cluster, (← optionsClause).getD Phrase.empty]

/-! ### The whole -/

/-- The query of a table that is filled from one. -/
def tableQuery : Parser (Option Query) := do
  if ← keyword "AS" then return some (← query)
  if (← dialect).createTableSelect && (← peekKeyword "SELECT") then return some (← query)
  return none

/-- CREATE TABLE after its keywords, clauses in a fixed order. -/
def orderedTable (m : CreateModifiers) : Parser Statement := do
  let d ← dialect
  let hyphens := d == .bigquery
  let condition ← ifNotExists
  let name ← objectNameIn hyphens
  let cluster ← onCluster
  let model ← oneOf ["LIKE", "ILIKE"]
  let like ← if model.isSome then tolerate (objectNameIn hyphens) else pure none
  let copied ← keyword "CLONE"
  let clone ← if copied then tolerate (objectNameIn hyphens) else pure none
  let (columns, constraints) ← tableElements
  let comment ← if ← given (d == .hive) (keyword "COMMENT") then do
      pure (Phrase.word ("COMMENT '" ++ (← quotedString "comment") ++ "'"))
    else pure Phrase.empty
  let rowId ← flag ["WITHOUT", "ROWID"]
  let partitioned ← partitionedBy
  let clustered ← clusteredBy
  let stored ← storage
  let withOptions ← optionList ["WITH"] " "
  let properties ← optionList ["TBLPROPERTIES"] " "
  let engine ← engine
  let increment ← autoIncrement
  let primaryKey ← if d == .generic then after ["PRIMARY", "KEY"] expr else pure Phrase.empty
  let order ← tableOrder
  let layout ← tableLayout
  let charset ← equalsWord ["DEFAULT", "CHARSET"]
  let collation ← equalsWord ["COLLATE"]
  let commit ← onCommit
  let strict ← flag ["STRICT"]
  let inline ← if d == .hive then pure Phrase.empty else inlineComment
  let query ← tableQuery
  let named (k : String) (n : Option ObjectName) : Phrase := match n with
    | some n => k ++ " " ++ n.render
    | none => Phrase.empty
  return TableDefinition.statement {
    modifiers := m
    ifNotExists := condition
    name := name
    cluster := cluster
    columns := columns
    constraints := constraints
    like := named "LIKE" like
    clone := named "CLONE" clone
    early := Phrase.words [comment, rowId]
    stored := Phrase.words [partitioned, clustered, stored.rowFormat, stored.classes, stored.format,
      stored.properties, stored.location, properties, withOptions]
    late := Phrase.words [engine, inline, increment, primaryKey, order, layout, charset, collation,
      commit, strict]
    query := query }

/-- The clauses of a table that may stand in any order. -/
structure FreeClauses where
  columns : List Phrase := []
  constraints : List Phrase := []
  comment : Phrase := Phrase.empty
  cluster : Phrase := Phrase.empty
  grants : Phrase := Phrase.empty
  evolution : Phrase := Phrase.empty
  tracking : Phrase := Phrase.empty
  retention : Phrase := Phrase.empty
  extension : Phrase := Phrase.empty
  collation : Phrase := Phrase.empty
  aggregation : Phrase := Phrase.empty
  rowAccess : Phrase := Phrase.empty
  tags : Phrase := Phrase.empty
  commit : Phrase := Phrase.empty
  like : Phrase := Phrase.empty
  clone : Phrase := Phrase.empty
  query : Option Query := none

/-- One clause of a table and whether it is the last. -/
def freeClause (c : FreeClauses) : Parser (FreeClauses × Bool) := do
  let start ← rest
  let found ← next
  let setting (k : String) (value : Parser Phrase) : Parser Phrase := do
    expectSymbol "="
    return Phrase.word (k ++ "=") ++ (← value)
  let truth : Parser Phrase := do
    match ← oneOf ["TRUE", "FALSE"] with
    | some k => return k
    | none => expected "TRUE or FALSE" found
  let copyOf (k : String) : Parser Phrase := do
    match ← tolerate objectName with
    | some n => return k ++ " " ++ n.render
    | none => return Phrase.empty
  let finished : Parser Unit := do
    if c.columns.isEmpty then fail (.unexpected "unexpected end of input")
  match tokenOf found with
  | none =>
    finished
    return (c, true)
  | some (.symbol ";") =>
    finished
    resume start
    return (c, true)
  | some (.symbol "(") =>
    resume start
    let (columns, constraints) ← tableElements
    return ({ c with columns := columns, constraints := constraints }, false)
  | some (.word _ k _) =>
    match k with
    | "COPY" =>
      expectKeyword "GRANTS"
      return ({ c with grants := "COPY GRANTS" }, false)
    | "COMMENT" =>
      resume start
      return ({ c with comment := ← inlineComment }, false)
    | "AS" => return ({ c with query := some (← query) }, true)
    | "CLONE" => return ({ c with clone := ← copyOf k }, true)
    | "LIKE" => return ({ c with like := ← copyOf k }, true)
    | "CLUSTER" =>
      expectKeyword "BY"
      let columns ← columnList
      return ({ c with cluster := Phrase.words ["CLUSTER BY", (identList columns).parens] }, false)
    | "ENABLE_SCHEMA_EVOLUTION" => return ({ c with evolution := ← setting k truth }, false)
    | "CHANGE_TRACKING" => return ({ c with tracking := ← setting k truth }, false)
    | "DATA_RETENTION_TIME_IN_DAYS" =>
      return ({ c with retention := ← setting k countPhrase }, false)
    | "MAX_DATA_EXTENSION_TIME_IN_DAYS" =>
      return ({ c with extension := ← setting k countPhrase }, false)
    | "DEFAULT_DDL_COLLATION" => return ({ c with collation := ← setting k rawLiteral }, false)
    | "WITH" =>
      let start ← rest
      let _ ← expectOneOf ["AGGREGATION", "TAG", "ROW"]
      resume start
      return (c, false)
    | "AGGREGATION" =>
      expectKeyword "POLICY"
      let aggregation := Phrase.words ["WITH AGGREGATION POLICY", ← namePhrase]
      return ({ c with aggregation := aggregation }, false)
    | "ROW" =>
      expectKeywords ["ACCESS", "POLICY"]
      let policy ← namePhrase
      expectKeyword "ON"
      let columns := (identList (← columnList)).parens
      let rowAccess := Phrase.words ["WITH ROW ACCESS POLICY", policy, "ON", columns]
      return ({ c with rowAccess := rowAccess }, false)
    | "TAG" => return ({ c with tags := Phrase.words ["WITH", ← tags] }, false)
    | "ON" =>
      if isKeyword "COMMIT" (← peekToken) then
        resume start
        return ({ c with commit := ← onCommit }, false)
      expected "end of statement" found
    | _ => expected "end of statement" found
  | _ => expected "end of statement" found

/-- CREATE TABLE after its keywords, clauses in any order. -/
def freeTable (m : CreateModifiers) : Parser Statement := do
  let condition ← ifNotExists
  let name ← objectName
  let (c, _) ← loop ({}, false) fun (c, ended) => do
    if ended then return none else return some (← freeClause c)
  return TableDefinition.statement {
    modifiers := m
    ifNotExists := condition
    name := name
    columns := c.columns
    constraints := c.constraints
    like := c.like
    clone := c.clone
    late := Phrase.words [c.comment, c.cluster, c.grants, c.evolution, c.tracking, c.retention,
      c.extension, c.collation, c.aggregation, c.rowAccess, c.tags, c.commit]
    query := c.query }

end Parser
end SqlLineage.Sql
