import SqlLineage.Sql.Parser.Change

/-! Columns and constraints of a table definition. -/

namespace SqlLineage.Sql.Parser

variable [Nesting]

/-! ### Constraints -/

def indexType : Parser Phrase := do
  if !(← keyword "USING") then return Phrase.empty
  match ← oneOf ["BTREE", "HASH"] with
  | some k => return "USING " ++ k
  | none => expectedNext "index type \x7bBTREE | HASH\x7d"

def indexOptions : Parser Phrase := do
  let options ← many do
    let type ← indexType
    if !type.isEmpty then return some type
    if ← keyword "COMMENT" then return some (Phrase.words ["COMMENT", ← rawLiteral])
    return none
  return Phrase.words options

def optionalIdent : Parser Phrase := return (← attempt identPhrase).getD Phrase.empty

/-- The columns of a key and what may stand around them. -/
def keyColumns (opening : Phrase) : Parser Phrase := do
  let name ← optionalIdent
  let type ← indexType
  let columns ← requiredColumns
  let options ← indexOptions
  return Phrase.words
    [opening, name, type, (identList columns).parens, options, ← characteristics]

def nullsDistinct : Parser Phrase := do
  if !(← keyword "NULLS") then return Phrase.empty
  let negation ← flag ["NOT"]
  expectKeyword "DISTINCT"
  return Phrase.words ["NULLS", negation, "DISTINCT"]

def foreignKey : Parser Phrase := do
  let columns ← requiredColumns
  expectKeyword "REFERENCES"
  let table ← namePhrase
  let referred ← optionalColumns false
  let actions ← referentialActions
  return Phrase.words ["FOREIGN KEY", (identList columns).parens, "REFERENCES",
    table ++ identsInParens referred, actions, ← characteristics]

/-- A constraint of a table, if one is next. -/
def tableConstraint : Parser (Option Phrase) := do
  let d ← dialect
  let name ← if ← keyword "CONSTRAINT" then some <$> identifier else pure none
  let start ← rest
  let found ← next
  let named (p : Phrase) : Option Phrase := match name with
    | some i => some (Phrase.words ["CONSTRAINT", i.render, p])
    | none => some p
  let indexed := d == .generic || d == .mysql
  let k := match tokenOf found with
    | some (.word _ k _) => k
    | _ => ""
  if k == "UNIQUE" then
    let display ← oneOf ["KEY", "INDEX"]
    if !indexed && display.isSome then
      expectedNext "\x60index_name\x60 or \x60(column_name [, ...])\x60"
    let nulls ← nullsDistinct
    return named (← keyColumns (Phrase.words ["UNIQUE", nulls, display.getD ""]))
  if k == "PRIMARY" then
    expectKeyword "KEY"
    return named (← keyColumns "PRIMARY KEY")
  if k == "FOREIGN" then
    expectKeyword "KEY"
    return named (← foreignKey)
  if k == "CHECK" then
    let condition ← parens expr
    return named (Phrase.words ["CHECK", condition.parens])
  if (k == "INDEX" || k == "KEY") && indexed && name.isNone then
    let index ← if ← peekKeyword "USING" then pure Phrase.empty else optionalIdent
    let type ← indexType
    let columns ← requiredColumns
    return some (Phrase.words [k, index, type, (identList columns).parens])
  if (k == "FULLTEXT" || k == "SPATIAL") && indexed then
    if let some i := name then
      let shown : Token := .word i.render i.render none
      expected "FULLTEXT or SPATIAL option without constraint name"
        (found.map fun l => ⟨shown, l.place⟩)
    let display ← oneOf ["KEY", "INDEX"]
    let index ← optionalIdent
    let columns ← requiredColumns
    return some (Phrase.words [k, display.getD "", index, (identList columns).parens])
  if name.isSome then expected "PRIMARY, UNIQUE, FOREIGN, or CHECK" found
  resume start
  return none

/-! ### Columns -/

def columnDefinition : Parser Phrase := columnWith typePhrase

/-- The columns and the constraints of a table, as far as they are given. -/
def tableElements : Parser (List Phrase × List Phrase) := do
  let d ← dialect
  if !(← symbol "(") then return ([], [])
  if ← symbol ")" then return ([], [])
  let (columns, constraints, _) ← loop ([], [], false) fun (columns, constraints, ended) => do
    if ended then return none
    let (columns, constraints) ← (show Parser (List Phrase × List Phrase) from do
      match ← tableConstraint with
      | some p => return (columns, p :: constraints)
      | none =>
        match ← peekToken with
        | some (.word ..) => return ((← columnDefinition) :: columns, constraints)
        | _ => expectedNext "column name or constraint definition")
    let comma ← symbol ","
    let closing ← peekSymbol ")"
    if !comma && !closing then expectedNext "',' or ')' after column definition"
    if closing && (!comma || d.columnTrailingComma) then
      let _ ← next
      return some (columns, constraints, true)
    return some (columns, constraints, false)
  return (columns.reverse, constraints.reverse)

end SqlLineage.Sql.Parser
