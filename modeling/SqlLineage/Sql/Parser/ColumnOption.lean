import SqlLineage.Sql.Parser.Nesting

/-! Options: those of a table, of a sequence and of a column. A column may stand inside a type, so
the type of a column is read by a parser that is given. -/

namespace SqlLineage.Sql.Parser

variable [Nesting]

/-- A list in parentheses, or nothing if it is empty. -/
def listInParens (ps : List Phrase) : Phrase :=
  if ps.isEmpty then Phrase.empty else (Phrase.list ps).parens

def identsInParens (is : List Ident) : Phrase :=
  if is.isEmpty then Phrase.empty else (identList is).parens

/-- A number that may have a sign. -/
def signedNumber : Parser Phrase := do
  for sign in ["+", "-"] do
    if ← symbol sign then return Phrase.word sign ++ (← numberValue)
  numberValue

/-! ### Options -/

/-- How the rows of a table are spread over files: by ranges of a column. -/
def rangeOption : Parser Phrase := do
  expectSymbol "("
  let column ← identPhrase
  expectKeyword "RANGE"
  let side := (← oneOf ["LEFT", "RIGHT"]).getD ""
  expectKeywords ["FOR", "VALUES"]
  let values ← parens exprs
  expectSymbol ")"
  let range := Phrase.words [column, "RANGE", side, "FOR VALUES", values.parens]
  return Phrase.words ["PARTITION", range.parens]

/-- How the rows of a table are kept in order. -/
def clusteredOption : Parser Phrase := do
  if ← keywordRun ["COLUMNSTORE", "INDEX", "ORDER"] then
    return Phrase.words
      ["CLUSTERED COLUMNSTORE INDEX ORDER", (identList (← requiredColumns)).parens]
  if ← keywordRun ["COLUMNSTORE", "INDEX"] then return "CLUSTERED COLUMNSTORE INDEX"
  if ← keyword "INDEX" then
    let column : Parser Phrase := do
      let name ← identPhrase
      return Phrase.words [name, (← oneOf ["ASC", "DESC"]).getD ""]
    return Phrase.words ["CLUSTERED INDEX", (← parens (listOf column)).parens]
  fail (.unexpected "invalid CLUSTERED sequence")

/-- A storage option without an equals sign, where the dialect has such options. -/
def bareOption? : Parser (Option Phrase) := do
  let d ← dialect
  if !(d == .mssql || d == .generic) then return none
  if ← peekKeyword "HEAP" then return some (← identPhrase)
  if ← keyword "PARTITION" then return some (← rangeOption)
  if ← keyword "CLUSTERED" then return some (← clusteredOption)
  return none

/-- An option: a name and a value. -/
def option : Parser Phrase := do
  if let some p ← bareOption? then return p
  let name ← identPhrase
  expectSymbol "="
  return Phrase.words [name, "=", ← expr]

/-- Options in parentheses after keywords; nothing if the keywords are not next. After a single
keyword the parentheses may be empty. -/
def optionsAfter (ks : List String) : Parser (List Phrase) := do
  if !(← keywordRun ks) then return []
  expectSymbol "("
  let options ← if ks.length == 1 then commaSeparated0 option ")" else commaSeparated option
  expectSymbol ")"
  return options

/-- The word OPTIONS and the options after it, none or more, if the word is next. -/
def optionsClause : Parser (Option Phrase) := do
  if !(← peekKeyword "OPTIONS") then return none
  let options ← optionsAfter ["OPTIONS"]
  return some (Phrase.word "OPTIONS" ++ (Phrase.list options).parens)

def optionList (ks : List String) (joint : String) : Parser Phrase := do
  let options ← optionsAfter ks
  if options.isEmpty then return Phrase.empty
  return Phrase.word (" ".intercalate ks ++ joint) ++ (Phrase.list options).parens

/-! ### Sequences -/

/-- The options of a sequence, each with a blank before it. -/
def sequenceOptions : Parser Phrase := do
  let numbered (k word : String) : Parser Phrase := do
    if !(← keyword k) then return Phrase.empty
    let joint ← flag [word]
    return Phrase.spaced [k, joint, ← signedNumber]
  let bound (k : String) : Parser Phrase := do
    if ← keyword k then return Phrase.spaced [k, ← signedNumber]
    return Phrase.spaced [← flag ["NO", k]]
  let increment ← numbered "INCREMENT" "BY"
  let low ← bound "MINVALUE"
  let high ← bound "MAXVALUE"
  let start ← numbered "START" "WITH"
  let cache ← if ← keyword "CACHE" then pure (Phrase.spaced ["CACHE", ← signedNumber])
    else pure Phrase.empty
  let cycle ← firstRun [["NO", "CYCLE"], ["CYCLE"]]
  return increment ++ low ++ high ++ start ++ cache ++ Phrase.spaced [cycle]

/-! ### Keys -/

/-- When a constraint is checked and whether it is enforced. -/
def characteristics : Parser Phrase := do
  let (deferrable, initially, enforced) ←
    loop (Phrase.empty, Phrase.empty, Phrase.empty) fun (deferrable, initially, enforced) => do
      if deferrable.isEmpty then
        let found ← if ← keywordRun ["NOT", "DEFERRABLE"] then pure (Phrase.word "NOT DEFERRABLE")
          else flag ["DEFERRABLE"]
        if !found.isEmpty then return some (found, initially, enforced)
      if ← given initially.isEmpty (keyword "INITIALLY") then
        match ← oneOf ["DEFERRED", "IMMEDIATE"] with
        | some k => return some (deferrable, Phrase.word ("INITIALLY " ++ k), enforced)
        | none => expectedNext "one of DEFERRED or IMMEDIATE"
      if enforced.isEmpty then
        let found ← if ← keyword "ENFORCED" then pure (Phrase.word "ENFORCED")
          else flag ["NOT", "ENFORCED"]
        if !found.isEmpty then return some (deferrable, initially, found)
      return none
  return Phrase.words [deferrable, initially, enforced]

def referentialAction : Parser Phrase := do
  for ks in [["RESTRICT"], ["CASCADE"], ["SET", "NULL"], ["NO", "ACTION"], ["SET", "DEFAULT"]] do
    if ← keywordRun ks then return Phrase.word (" ".intercalate ks)
  expectedNext "one of RESTRICT, CASCADE, SET NULL, NO ACTION or SET DEFAULT"

/-- What happens to a row when the one it refers to is deleted or changed. -/
def referentialActions : Parser Phrase := do
  let (onDelete, onUpdate) ← loop (Phrase.empty, Phrase.empty) fun (onDelete, onUpdate) => do
    if ← given onDelete.isEmpty (keywordRun ["ON", "DELETE"]) then
      return some (Phrase.words ["ON DELETE", ← referentialAction], onUpdate)
    if ← given onUpdate.isEmpty (keywordRun ["ON", "UPDATE"]) then
      return some (onDelete, Phrase.words ["ON UPDATE", ← referentialAction])
    return none
  return Phrase.words [onDelete, onUpdate]

/-! ### Columns -/

def quotedString (what : String) : Parser String := do
  let found ← next
  match tokenOf found with
  | some (.text .single value) => return value
  | _ => expected what found

/-- The expression of a computed column and how it is kept. -/
def computed (opening : String) (mustBeStored : Bool) : Parser Phrase := do
  let e ← parens expr
  let mode ←
    if ← keyword "STORED" then pure (Phrase.word "STORED")
    else if mustBeStored then expectedNext "STORED"
    else flag ["VIRTUAL"]
  return Phrase.words [opening, e.parens, mode]

def generatedOption : Parser (Option Phrase) := do
  let identity (opening : String) : Parser (Option Phrase) := do
    if !(← symbol "(") then return some opening
    let options ← sequenceOptions
    expectSymbol ")"
    if options.isEmpty then return some opening
    return some (Phrase.word (opening ++ " (") ++ options ++ Phrase.word " )")
  if ← keywordRun ["ALWAYS", "AS", "IDENTITY"] then
    return ← identity "GENERATED ALWAYS AS IDENTITY"
  if ← keywordRun ["BY", "DEFAULT", "AS", "IDENTITY"] then
    return ← identity "GENERATED BY DEFAULT AS IDENTITY"
  if ← keywordRun ["ALWAYS", "AS"] then
    if ← peekSymbol "(" then
      return some (← computed "GENERATED ALWAYS AS" ((← dialect) == .postgres))
  return none

/-- Where the numbers of an identity column start and how far apart they are. -/
def identityParameters : Parser Phrase := do
  let seed ← signedNumber
  expectSymbol ","
  let step ← signedNumber
  expectSymbol ")"
  return (Phrase.list [seed, step]).parens

/-- An identity column after its keyword. -/
def identity (k : String) : Parser Phrase := do
  let parameters ← (show Parser Phrase from do
    if ← symbol "(" then return ← identityParameters
    if ← keyword "START" then
      let seed ← signedNumber
      expectKeyword "INCREMENT"
      return Phrase.words [" START", seed, "INCREMENT", ← signedNumber]
    return Phrase.empty)
  let order ← oneOf ["ORDER", "NOORDER"]
  return Phrase.words [Phrase.word k ++ parameters, order.getD ""]

/-- A label of an object and its value. -/
def tag : Parser Phrase := do
  let name ← identPhrase
  expectSymbol "="
  return name ++ Phrase.word "=" ++ (← rawLiteral)

def tags : Parser Phrase := return Phrase.words ["TAG", (← parens (listOf tag)).parens]

/-- A policy that guards a column. -/
def columnPolicy (kind : String) : Parser Phrase := do
  let name ← identPhrase
  let others ← if ← keyword "USING" then do
      pure (Phrase.words ["USING", (identList (← columnList)).parens])
    else pure Phrase.empty
  return Phrase.words [kind, "POLICY", name, others]

/-- An option that only one dialect has. -/
def guardedOption : Parser (Option Phrase) := do
  let start ← rest
  let opening ← flag ["WITH"]
  match ← oneOf ["IDENTITY", "AUTOINCREMENT"] with
  | some k => return some (← identity k)
  | none =>
    for kind in ["MASKING", "PROJECTION"] do
      if ← keywordRun [kind, "POLICY"] then
        return some (Phrase.words [opening, ← columnPolicy kind])
    if ← keyword "TAG" then return some (Phrase.words [opening, ← tags])
    resume start
    return none

/-- An option of a column, if one is next. A word that only other dialects know may be passed
over. -/
def columnOption : Parser (Option Phrase) := do
  let d ← dialect
  let anywhere := d == .generic
  let found (p : Parser Phrase) : Parser (Option Phrase) := some <$> p
  if d == .snowflake then
    if let some p ← guardedOption then return some p
  if ← keywordRun ["CHARACTER", "SET"] then
    return ← found do return Phrase.words ["CHARACTER SET", ← namePhrase]
  if ← keywordRun ["NOT", "NULL"] then return some "NOT NULL"
  if ← keyword "COMMENT" then
    return ← found do return Phrase.words ["COMMENT", singleQuoted (← quotedString "string")]
  if ← keyword "NULL" then return some "NULL"
  if ← keyword "DEFAULT" then return ← found do return Phrase.words ["DEFAULT", ← expr]
  if anywhere then
    if ← keyword "MATERIALIZED" then
      return ← found do return Phrase.words ["MATERIALIZED", ← expr]
    if ← keyword "ALIAS" then return ← found do return Phrase.words ["ALIAS", ← expr]
    if ← keyword "EPHEMERAL" then
      match ← peekToken with
      | some (.symbol ",") | some (.symbol ")") => return some "EPHEMERAL"
      | _ => return ← found do return Phrase.words ["EPHEMERAL", ← expr]
  if ← keywordRun ["PRIMARY", "KEY"] then
    return ← found do return Phrase.words ["PRIMARY KEY", ← characteristics]
  if ← keyword "UNIQUE" then return ← found do return Phrase.words ["UNIQUE", ← characteristics]
  if ← keyword "REFERENCES" then
    let table ← namePhrase
    let columns ← optionalColumns false
    let actions ← referentialActions
    return some (Phrase.words
      ["REFERENCES", table, identsInParens columns, actions, ← characteristics])
  if ← keyword "CHECK" then
    let condition ← parens expr
    return some (Phrase.words ["CHECK", condition.parens])
  if (← keyword "AUTO_INCREMENT") && (d == .mysql || anywhere) then return some "AUTO_INCREMENT"
  if (← keyword "AUTOINCREMENT") && (d == .sqlite || anywhere) then return some "AUTOINCREMENT"
  if (← keyword "ASC") && d.sortedPrimaryKey then return some "ASC"
  if (← keyword "DESC") && d.sortedPrimaryKey then return some "DESC"
  if (← keywordRun ["ON", "UPDATE"]) && (d == .mysql || anywhere) then
    return ← found do return Phrase.words ["ON UPDATE", ← expr]
  if ← keyword "GENERATED" then return ← generatedOption
  if d == .bigquery || anywhere then
    if let some p ← optionsClause then return some p
  if (← keyword "AS") && (d == .mysql || d == .sqlite || d == .duckdb || anywhere) then
    return some (← computed "AS" false)
  if (← keyword "IDENTITY") && (d == .mssql || anywhere) then
    if !(← symbol "(") then return some "IDENTITY"
    return some (Phrase.word "IDENTITY" ++ (← identityParameters))
  if ← given (d == .sqlite || anywhere) (keywordRun ["ON", "CONFLICT"]) then
    let k ← expectOneOf ["ROLLBACK", "ABORT", "FAIL", "IGNORE", "REPLACE"]
    return some (Phrase.word ("ON CONFLICT " ++ k))
  return none

/-- A column may stand without a type before these words. -/
def untypedFollowers : List String :=
  ["CONSTRAINT", "PRIMARY", "NOT", "UNIQUE", "CHECK", "DEFAULT", "COLLATE", "REFERENCES",
    "GENERATED", "AS"]

def untyped : Parser Bool := do
  if (← dialect) != .sqlite then return false
  match ← peekToken with
  | some (.word _ k _) => return untypedFollowers.contains k
  | _ => return true

/-- A column; `type` reads its type. -/
def columnWith (type : Parser Phrase) : Parser Phrase := do
  let d ← dialect
  let name ← identPhrase
  let type ← if ← untyped then pure Phrase.empty else type
  let collation ← after ["COLLATE"] namePhrase
  let late := d == .mysql || d == .snowflake || d == .generic
  let (collation, options) ← loop (collation, []) fun (collation, options) => do
    if ← keyword "CONSTRAINT" then
      let name ← identPhrase
      match ← columnOption with
      | some p => return some (collation, Phrase.words ["CONSTRAINT", name, p] :: options)
      | none => expectedNext "constraint details after CONSTRAINT <name>"
    match ← columnOption with
    | some p => return some (collation, p :: options)
    | none =>
      if ← given late (keyword "COLLATE") then
        return some (Phrase.words ["COLLATE", ← namePhrase], options)
      return none
  return Phrase.words [name, type, collation, Phrase.words options.reverse]

end SqlLineage.Sql.Parser
