import SqlLineage.Sql.Parser.CreateTable

/-! Roles: who may log in and what that role is allowed in general. -/

namespace SqlLineage.Sql.Parser

variable [Nesting]

/-- The rights of a role that are a word or its opposite, in the order in which they are written
back. -/
def roleRights : List String :=
  ["SUPERUSER", "CREATEDB", "CREATEROLE", "INHERIT", "LOGIN", "REPLICATION", "BYPASSRLS"]

/-- What a role is created with. -/
structure RoleOptions where
  rights : List (String × Bool) := []
  /-- What stands after the rights, under the name it may be given once. -/
  others : List (String × Phrase) := []

/-- The options that follow the rights, in the order in which they are written back. -/
def roleClauses : List String :=
  ["CONNECTION LIMIT", "PASSWORD", "VALID UNTIL", "IN ROLE", "IN GROUP", "ROLE", "USER", "ADMIN",
    "AUTHORIZATION"]

def RoleOptions.phrase (o : RoleOptions) : Phrase :=
  let rights := roleRights.filterMap fun k =>
    (o.rights.lookup k).map fun granted => Phrase.word (if granted then k else "NO" ++ k)
  Phrase.words (rights ++ roleClauses.filterMap fun k =>
    (o.others.lookup k).map fun p => Phrase.words [k, p])

def password : Parser Phrase := do
  if ← keyword "NULL" then return "NULL"
  value

/-- One option of a new role. -/
def roleOption (o : RoleOptions) : Parser (Option RoleOptions) := do
  let d ← dialect
  let allowed := if d == .mssql then ["AUTHORIZATION"]
    else if d == .postgres then
      roleRights ++ roleRights.map ("NO" ++ ·) ++
        ["PASSWORD", "CONNECTION", "VALID", "IN", "ROLE", "ADMIN", "USER"]
    else []
  let place := placeText (← peek)
  let once {α : Type} (given : Bool) (name : String) (p : Parser α) : Parser α :=
    if given then fail (.unexpected ("Found multiple " ++ name ++ place)) else p
  let clause (name : String) (p : Parser Phrase) : Parser (Option RoleOptions) :=
    once (o.others.lookup name).isSome name do
      return some { o with others := (name, ← p) :: o.others }
  let names : Parser Phrase := listOf identPhrase
  match ← oneOf allowed with
  | none => return none
  | some "PASSWORD" => clause "PASSWORD" password
  | some "CONNECTION" =>
    expectKeyword "LIMIT"
    clause "CONNECTION LIMIT" numberValue
  | some "VALID" =>
    expectKeyword "UNTIL"
    clause "VALID UNTIL" value
  | some "IN" =>
    if ← keyword "ROLE" then clause "IN ROLE" names
    else if ← keyword "GROUP" then clause "IN GROUP" names
    else expectedNext "ROLE or GROUP after IN"
  | some "AUTHORIZATION" => clause "AUTHORIZATION" namePhrase
  | some k =>
    if ["ROLE", "ADMIN", "USER"].contains k then clause k names
    else
      let granted := roleRights.contains k
      let right := if granted then k else String.ofList (k.toList.drop 2)
      once (o.rights.lookup right).isSome (right ++ " or NO" ++ right) do
        return some { o with rights := (right, granted) :: o.rights }

/-- CREATE ROLE after the keyword ROLE. -/
def createRole : Parser Phrase := do
  let condition ← ifNotExists
  let names ← listOf namePhrase
  let _ ← keyword "WITH"
  let options ← loop {} roleOption
  return Phrase.words ["CREATE ROLE", condition, names, options.phrase]

/-! ### Changes -/

/-- One option of a role that is changed. -/
def roleChange : Parser (Option Phrase) := do
  if let some k ← oneOf (roleRights ++ roleRights.map ("NO" ++ ·)) then return some k
  if ← keyword "PASSWORD" then return some (Phrase.words ["PASSWORD", ← password])
  if ← keywordRun ["CONNECTION", "LIMIT"] then
    return some (Phrase.words ["CONNECTION LIMIT", ← numberValue])
  if ← keywordRun ["VALID", "UNTIL"] then return some (Phrase.words ["VALID UNTIL", ← value])
  return none

/-- A setting of a role, after SET. -/
def roleSetting : Parser Phrase := do
  let name ← namePhrase
  if ← keywordRun ["FROM", "CURRENT"] then return Phrase.words ["SET", name, "FROM CURRENT"]
  let assigned ← if ← symbol "=" then pure true else keyword "TO"
  if !assigned then expectedNext "'TO' or '=' or 'FROM CURRENT'"
  if ← keyword "DEFAULT" then return Phrase.words ["SET", name, "TO DEFAULT"]
  match ← tolerate expr with
  | some e => return Phrase.words ["SET", name, "TO", e]
  | none => expectedNext "config value"

def alterPostgresRole : Parser Phrase := do
  let name ← identPhrase
  let database ← if ← keywordRun ["IN", "DATABASE"] then do
      pure ((← tolerate namePhrase).map fun n => Phrase.words ["IN DATABASE", n])
    else pure none
  let database := database.getD Phrase.empty
  let change ← (show Parser Phrase from do
    if ← keyword "RENAME" then
      if !(← keyword "TO") then expectedNext "TO after RENAME"
      return Phrase.words ["RENAME TO", ← identPhrase]
    if ← keyword "SET" then return Phrase.words [database, ← roleSetting]
    if ← keyword "RESET" then
      if ← keyword "ALL" then return Phrase.words [database, "RESET ALL"]
      return Phrase.words [database, "RESET", ← namePhrase]
    let _ ← keyword "WITH"
    let options ← many do return (← attempt roleChange).getD none
    if options.isEmpty then expectedNext "option"
    return Phrase.words ["WITH", Phrase.words options])
  return Phrase.words ["ALTER ROLE", name, change]

def alterServerRole : Parser Phrase := do
  let name ← identPhrase
  let change ← (show Parser Phrase from do
    for k in ["ADD", "DROP"] do
      if ← keywordRun [k, "MEMBER"] then return Phrase.words [k, "MEMBER", ← identPhrase]
    if ← keywordRun ["WITH", "NAME"] then
      if !(← symbol "=") then expectedNext "= after WITH NAME "
      return Phrase.words ["RENAME TO", ← identPhrase]
    expectedNext "'ADD' or 'DROP' or 'WITH NAME'")
  return Phrase.words ["ALTER ROLE", name, change]

/-- ALTER ROLE after the keyword ROLE. -/
def alterRole : Parser Phrase := do
  match ← dialect with
  | .postgres => alterPostgresRole
  | .mssql => alterServerRole
  | _ => fail (.unexpected "ALTER ROLE is only support for PostgreSqlDialect, MsSqlDialect")

end SqlLineage.Sql.Parser
