import SqlLineage.Sql.Parser.Role
import SqlLineage.Sql.Parser.Rule

/-! CREATE for everything but tables, and the choice among what can be created. -/

namespace SqlLineage.Sql.Parser

variable [Nesting]

/-! ### Views -/

def viewColumn : Parser Phrase := do
  let d ← dialect
  let name ← identPhrase
  let optioned := (d == .bigquery || d == .generic) && (← peekKeyword "OPTIONS")
  let commented := (d == .snowflake || d == .generic) && (← peekKeyword "COMMENT")
  if optioned || commented then
    return Phrase.words [name, (← columnOption).getD Phrase.empty]
  return name

def viewColumns : Parser Phrase := do
  if !(← symbol "(") then return Phrase.empty
  if ← symbol ")" then return Phrase.empty
  let d ← dialect
  let columns ← separatedWith d.columnTrailingComma notColumnAlias viewColumn
  expectSymbol ")"
  return (Phrase.list columns).parens

/-- CREATE VIEW from MATERIALIZED or VIEW on. -/
def createView (m : CreateModifiers) : Parser Statement := do
  let d ← dialect
  let materialized ← keyword "MATERIALIZED"
  expectKeyword "VIEW"
  let condition ← if d == .bigquery || d == .sqlite || d == .generic then ifNotExists
    else pure Phrase.empty
  let name ← objectNameIn (d == .bigquery)
  let columns ← viewColumns
  let withOptions ← optionList ["WITH"] " "
  let cluster ← if ← keyword "CLUSTER" then do
      expectKeyword "BY"
      let columns ← optionalColumns false
      pure (if columns.isEmpty then Phrase.empty
        else Phrase.words ["CLUSTER BY", (identList columns).parens])
    else pure Phrase.empty
  let options ← if d == .bigquery || d == .generic then optionList ["OPTIONS"] ""
    else pure Phrase.empty
  let target ← if d == .generic then after ["TO"] namePhrase else pure Phrase.empty
  let comment ← if ← given (d == .snowflake || d == .generic) (keyword "COMMENT") then do
      expectSymbol "="
      pure (Phrase.words ["COMMENT =", singleQuoted (← quotedString "string literal")])
    else pure Phrase.empty
  expectKeyword "AS"
  let q ← query
  let binding ← if d == .redshift || d == .generic then flag ["WITH", "NO", "SCHEMA", "BINDING"]
    else pure Phrase.empty
  let withOptions := if options.isEmpty then withOptions else Phrase.empty
  let phrase := Phrase.words ["CREATE", m.replaceText, m.viewParameters,
    if materialized then "MATERIALIZED" else "", m.temporaryText, "VIEW", condition, name.render,
    target, columns, withOptions, comment, cluster, options, "AS", q.phrase, binding]
  return { phrase := phrase, effect := .createView name materialized q }

/-! ### Indexes, schemas, sequences and others -/

def createIndex (unique : String) : Parser Phrase := do
  let concurrently ← flag ["CONCURRENTLY"]
  let condition ← ifNotExists
  let unnamed ← if condition.isEmpty then keyword "ON" else pure false
  let name ← if unnamed then pure Phrase.empty else namePhrase
  if !unnamed then expectKeyword "ON"
  let table ← namePhrase
  let method ← if ← keyword "USING" then do
      pure (Phrase.word " USING " ++ (← identPhrase) ++ Phrase.word " ")
    else pure Phrase.empty
  let columns ← parens (commaSeparated sortKey)
  let included ← if ← keyword "INCLUDE" then parens (commaSeparated identPhrase) else pure []
  let nulls ← nullsDistinct
  let parameters ← if ← given (← dialect).indexWithClause (keyword "WITH") then do
      pure (Phrase.words ["WITH", (← parens exprs).parens])
    else pure Phrase.empty
  let predicate ← whereClause
  let target := table ++ method ++ (Phrase.joined "," columns).parens
  let included := if included.isEmpty then Phrase.empty
    else Phrase.words ["INCLUDE", (Phrase.joined "," included).parens]
  return Phrase.words ["CREATE", unique, "INDEX", concurrently, condition, name, "ON", target,
    included, nulls, parameters, predicate]

def createSchema : Parser Phrase := do
  let condition ← ifNotExists
  let name ← if ← peekKeyword "AUTHORIZATION" then pure Phrase.empty else namePhrase
  let owner ← after ["AUTHORIZATION"] identPhrase
  return Phrase.words ["CREATE SCHEMA", condition, name, owner]

def createDatabase : Parser Phrase := do
  let condition ← ifNotExists
  let name ← namePhrase
  let (location, managed) ← loop (Phrase.empty, Phrase.empty) fun (location, managed) => do
    if ← keyword "LOCATION" then
      return some (Phrase.words ["LOCATION", ← rawLiteral], managed)
    if ← keyword "MANAGEDLOCATION" then
      return some (location, Phrase.words ["MANAGEDLOCATION", ← rawLiteral])
    return none
  return Phrase.words ["CREATE DATABASE", condition, name, location, managed]

def createSequence (m : CreateModifiers) : Parser Phrase := do
  let condition ← ifNotExists
  let name ← namePhrase
  let type ← if ← keyword "AS" then do pure (Phrase.words ["AS", ← typePhrase])
    else pure Phrase.empty
  let options ← sequenceOptions
  let owner ← if ← keywordRun ["OWNED", "BY"] then do
      if ← keyword "NONE" then pure (Phrase.word " OWNED BY NONE")
      else pure (Phrase.word " OWNED BY " ++ (← namePhrase))
    else pure Phrase.empty
  return Phrase.words ["CREATE", m.temporaryText, "SEQUENCE", condition, name, type] ++ options ++
    owner

def createExtension : Parser Phrase := do
  let condition ← ifNotExists
  let name ← identPhrase
  if !(← keyword "WITH") then return Phrase.words ["CREATE EXTENSION", condition, name]
  let schema ← after ["SCHEMA"] identPhrase
  let version ← after ["VERSION"] identPhrase
  let options := Phrase.words [schema, version, ← flag ["CASCADE"]]
  return Phrase.words
    ["CREATE EXTENSION", condition, name, if options.isEmpty then "" else "WITH", options]

/-- A type that lists its labels, after ENUM. -/
def labelType (name : Phrase) : Parser Phrase := do
  if !(← symbol "(") then expectedNext "'(' after CREATE TYPE AS ENUM"
  let labels ← commaSeparated0 identPhrase ")"
  if !(← symbol ")") then expectedNext "')' after CREATE TYPE AS ENUM"
  return Phrase.words ["CREATE TYPE", name, "AS ENUM", (Phrase.list labels).parens]

/-- A type made of attributes; a comma may follow the last of them. Where `labels` is set the type
may list labels instead. -/
def createType (labels : Bool) : Parser Phrase := do
  let name ← namePhrase
  expectKeyword "AS"
  if ← given labels (keyword "ENUM") then return ← labelType name
  let shown (attributes : List Phrase) : Phrase :=
    Phrase.words ["CREATE TYPE", name, "AS", (Phrase.list attributes).parens]
  if !(← symbol "(") then return shown []
  if ← symbol ")" then return shown []
  let (attributes, _) ← loop ([], false) fun (attributes, ended) => do
    if ended then return none
    let name ← identPhrase
    let type ← typePhrase
    let part := Phrase.words [name, type, ← after ["COLLATE"] namePhrase]
    let comma ← symbol ","
    if ← symbol ")" then return some (part :: attributes, true)
    if !comma then expectedNext "',' or ')' after attribute definition"
    return some (part :: attributes, false)
  return shown attributes.reverse

def createVirtualTable : Parser Phrase := do
  expectKeyword "TABLE"
  let condition ← ifNotExists
  let name ← namePhrase
  expectKeyword "USING"
  let extension ← identPhrase
  let args ← optionalColumns false
  return Phrase.words ["CREATE VIRTUAL TABLE", condition, name, "USING", extension,
    identsInParens args]

/-- A table whose rows live in files elsewhere. -/
def createExternalTable (m : CreateModifiers) : Parser Statement := do
  expectKeyword "TABLE"
  let condition ← ifNotExists
  let name ← objectName
  let (columns, constraints) ← tableElements
  let partitioned ← partitionedBy
  let stored ← storage
  let properties ← optionList ["TBLPROPERTIES"] " "
  let elements := columns ++ constraints
  let list := if elements.isEmpty then Phrase.word "()" else (Phrase.list elements).parens
  return {
    phrase := Phrase.words ["CREATE", m.replaceText, "EXTERNAL TABLE", condition, name.render, list,
      partitioned, stored.rowFormat, stored.classes, stored.properties, stored.format,
      stored.location, properties]
    effect := .createTable name none }

/-- A stored credential. -/
def createSecret (m : CreateModifiers) : Parser Phrase := do
  let condition ← ifNotExists
  let named (k : String) : Parser (Option Phrase) := do
    return (← tolerate identPhrase).map fun i => Phrase.words [k, i]
  let unnamed ← peekSymbol "("
  let stored ← given (!unnamed) (keyword "IN")
  let name ← if unnamed || stored then pure none else named ""
  let place ← if stored then named "IN" else pure none
  let place ← if ← given (!unnamed && place.isNone) (keyword "IN") then named "IN" else pure place
  expectSymbol "("
  expectKeyword "TYPE"
  let type ← identPhrase
  let option : Parser Phrase := do
    let key ← identPhrase
    return Phrase.words [key, ← identPhrase]
  let options ← if ← symbol "," then commaSeparated option else pure []
  expectSymbol ")"
  if m.temporary && m.persistent then expectedNext "TEMPORARY or PERSISTENT"
  return Phrase.words ["CREATE", m.replaceText, m.temporaryText,
    if m.persistent then "PERSISTENT" else "", "SECRET", condition, name.getD Phrase.empty,
    place.getD Phrase.empty, "(", Phrase.list (Phrase.words ["TYPE", type] :: options), ")"]

/-! ### The choice -/

/-- How a view is worked out and on whose behalf. -/
def viewParameters : Parser Phrase := do
  let algorithm ← if ← keyword "ALGORITHM" then do
      expectSymbol "="
      pure (Phrase.words ["ALGORITHM =", ← expectOneOf ["UNDEFINED", "MERGE", "TEMPTABLE"]])
    else pure Phrase.empty
  let definer ← if ← keyword "DEFINER" then do
      expectSymbol "="
      let (name, host) ← granteeName
      pure (Phrase.words ["DEFINER =", granteeText name host])
    else pure Phrase.empty
  let security ← after ["SQL", "SECURITY"]
    (return Phrase.word (← expectOneOf ["DEFINER", "INVOKER"]))
  return Phrase.words [algorithm, definer, security]

def createModifiers : Parser CreateModifiers := do
  let d ← dialect
  let orReplace ← keywordRun ["OR", "REPLACE"]
  let orAlter ← keywordRun ["OR", "ALTER"]
  let isLocal ← keyword "LOCAL"
  let isGlobal ← keyword "GLOBAL"
  let transient ← keyword "TRANSIENT"
  let temporary ← oneOf ["TEMP", "TEMPORARY"]
  let persistent ← if d == .duckdb then keyword "PERSISTENT" else pure false
  return {
    orReplace := orReplace
    orAlter := orAlter
    reach := if isGlobal then "GLOBAL" else if isLocal then "LOCAL" else ""
    temporary := temporary.isSome
    transient := transient
    persistent := persistent
    viewParameters := ← viewParameters }

/-- A CREATE statement after its keyword. -/
def create : Parser Statement := do
  let d ← dialect
  let unmodified ← peekKeyword "TYPE"
  let m ← createModifiers
  let plain (p : Parser Phrase) : Parser Statement := return { phrase := ← p }
  let start ← rest
  if ← keyword "TABLE" then return ← orderedTable m
  if ← peekOneOf ["MATERIALIZED", "VIEW"] then return ← createView m
  if ← keyword "POLICY" then return ← plain createPolicy
  if ← keyword "EXTERNAL" then return ← createExternalTable m
  if ← keyword "FUNCTION" then
    if d == .hive then return ← plain (createClassFunction m)
    if d == .postgres || d == .generic then return ← plain (createFunction m)
    if d == .duckdb then return ← plain (createMacro m)
    if d == .bigquery then return ← plain (createQueryFunction m)
    resume start
    expectedNext "an object type after CREATE"
  let triggered := d == .postgres || d == .generic
  let trigger ← keyword "TRIGGER"
  let constrained ← given (!trigger) (keywordRun ["CONSTRAINT", "TRIGGER"])
  if trigger || constrained then
    if triggered then
      return ← plain (createTrigger m (if constrained then "CONSTRAINT" else ""))
    resume start
    if constrained then let _ ← next
    expectedNext "an object type after CREATE"
  if ← keyword "MACRO" then
    if d == .duckdb || d == .generic then return ← plain (createMacro m)
    resume start
    expectedNext "an object type after CREATE"
  if ← keyword "SECRET" then return ← plain (createSecret m)
  if m.orReplace then
    expectedNext "[EXTERNAL] TABLE or [MATERIALIZED] VIEW or FUNCTION after CREATE OR REPLACE"
  if ← keyword "EXTENSION" then return ← plain createExtension
  if ← keyword "INDEX" then return ← plain (createIndex "")
  if ← keywordRun ["UNIQUE", "INDEX"] then return ← plain (createIndex "UNIQUE")
  if ← keyword "VIRTUAL" then return ← plain createVirtualTable
  if ← keyword "SCHEMA" then return ← plain createSchema
  if ← keyword "DATABASE" then return ← plain createDatabase
  if ← keyword "ROLE" then return ← plain createRole
  if ← keyword "SEQUENCE" then return ← plain (createSequence m)
  if ← keyword "TYPE" then return ← plain (createType (unmodified && d == .postgres))
  if ← keyword "PROCEDURE" then return ← plain (createProcedure m)
  expectedNext "an object type after CREATE"

end SqlLineage.Sql.Parser
