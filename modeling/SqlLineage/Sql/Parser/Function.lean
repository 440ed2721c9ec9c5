import SqlLineage.Sql.Parser.Window

/-! Function calls: their arguments and what may follow them. -/

namespace SqlLineage.Sql.Parser

variable [Nesting]

/-! ### Wildcards -/

/-- A name that a period and a star end, the star included; nothing where it is no wildcard. -/
def wildcard : Parser (Option (Option ObjectName)) := do
  let start ← rest
  let found ← next
  match found.bind fun l => identOf? l.token with
  | some i =>
    if (tokenOf found == some (.text .double i.value)) || !(← peekSymbol ".") then
      resume start
      return none
    let (path, star) ← loop ([i], false) fun (path, star) => do
      if !(← given (!star) (symbol ".")) then return none
      let found ← next
      match tokenOf found with
      | some (.word value _ quote) => return some (⟨value, quote⟩ :: path, false)
      | some (.text .single value) => return some (⟨value, some '\''⟩ :: path, false)
      | some (.symbol "*") => return some (path, true)
      | _ => expected "an identifier or a '*' after '.'" found
    if star then return some (some path.reverse)
    resume start
    return none
  | none =>
    if isSymbol "*" (tokenOf found) then return some none
    resume start
    return none

/-- An expression or a wildcard. -/
def exprOrWildcard : Parser Phrase := do
  match ← wildcard with
  | some none => return "*"
  | some (some name) => return ObjectName.render name ++ ".*"
  | none => expr

/-! ### Arguments -/

/-- The mark between the name and the value of an argument. -/
def argumentMark : Parser String := do
  if ← keyword "VALUE" then return "VALUE"
  let d ← dialect
  if ← symbol "=>" then return "=>"
  if ← given (d == .duckdb) (symbol "=") then return "="
  if ← given (d == .generic || d == .duckdb) (symbol ":=") then return ":="
  if ← given d.argumentColon (symbol ":") then return ":"
  expectedNext "argument operator"

def argument : Parser Phrase := do
  let name := if (← dialect).argumentExpressions then expr else identPhrase
  let named ← attempt do
    let name ← name
    let mark ← argumentMark
    return Phrase.words [name, mark, ← exprOrWildcard]
  match named with
  | some argument => return argument
  | none => exprOrWildcard

/-- What a document function does with null values. -/
def documentNulls : Parser Phrase := do
  if ← keywordRun ["ABSENT", "ON", "NULL"] then return "ABSENT ON NULL"
  flag ["NULL", "ON", "NULL"]

/-- ALL or DISTINCT before the arguments. -/
def duplicateTreatment : Parser Phrase := do
  let start ← peek
  let all ← keyword "ALL"
  let distinct ← keyword "DISTINCT"
  if all && distinct then
    fail (.unexpected ("Cannot specify both ALL and DISTINCT" ++ placeText start))
  return if all then "ALL" else if distinct then "DISTINCT" else Phrase.empty

/-- What is done when a joined list grows too long. -/
def onOverflow : Parser Phrase := do
  if !(← keywordRun ["ON", "OVERFLOW"]) then return Phrase.empty
  if ← keyword "ERROR" then return "ON OVERFLOW ERROR"
  expectKeyword "TRUNCATE"
  let filler ← match ← peekToken with
    | some (.word _ k _) =>
      if k == "WITH" || k == "WITHOUT" then pure Phrase.empty
      else expectedNext "either filler, WITH, or WITHOUT in LISTAGG"
    | some (.text form _) =>
      if [.single, .escaped, .unicode, .national, .hex].contains form then expr
      else expectedNext "either filler, WITH, or WITHOUT in LISTAGG"
    | _ => expectedNext "either filler, WITH, or WITHOUT in LISTAGG"
  match ← oneOf ["WITH", "WITHOUT"] with
  | some k =>
    expectKeyword "COUNT"
    return Phrase.words ["ON OVERFLOW TRUNCATE", filler, k, "COUNT"]
  | none => expectedNext "either WITH or WITHOUT in LISTAGG"

/-- The arguments of a call. -/
structure Arguments where
  phrase : Phrase
  /-- The treatment of nulls stands among them. -/
  treatsNulls : Bool := false

/-- Arguments after the opening parenthesis, up to the closing one. -/
def arguments : Parser Arguments := do
  let d ← dialect
  let nulls ← documentNulls
  if ← symbol ")" then return { phrase := nulls }
  let duplicates ← duplicateTreatment
  let values ← listOf argument
  let treatment ← if d.nullTreatmentArgument then nullTreatment else pure Phrase.empty
  let order ← orderBy
  let limit ← after ["LIMIT"] expr
  let bound ←
    if ← given d.havingBound (keyword "HAVING") then do
      let k ← expectOneOf ["MIN", "MAX"]
      pure (Phrase.words ["HAVING", k, ← expr])
    else pure Phrase.empty
  let separator ← if d.separatorClause then after ["SEPARATOR"] value else pure Phrase.empty
  let overflow ← onOverflow
  let nullsLast ← documentNulls
  expectSymbol ")"
  let phrase := Phrase.words
    [duplicates, values, nulls, treatment, order, limit, bound, separator, overflow, nullsLast]
  return { phrase := phrase, treatsNulls := !treatment.isEmpty }

/-! ### Calls -/

/-- A call of the function `name`, from its opening parenthesis on. -/
def call (interval : Parser Phrase) (name : String) : Parser Phrase := do
  let d ← dialect
  expectSymbol "("
  if d.bareSubqueryArgument && (← atQuery) then
    let subquery ← queryPhrase
    expectSymbol ")"
    return Phrase.word name ++ subquery.parens
  let first ← arguments
  let (parameters, args) ←
    if ← given d.parametricFunctions (symbol "(") then do
      pure (first.phrase.parens, ← arguments)
    else pure (Phrase.empty, first)
  let within ←
    if ← keywordRun ["WITHIN", "GROUP"] then do
      expectSymbol "("
      expectKeywords ["ORDER", "BY"]
      let keys ← listOf sortKey
      expectSymbol ")"
      pure (Phrase.word " WITHIN GROUP (ORDER BY " ++ keys ++ Phrase.word ")")
    else pure Phrase.empty
  let filter ← (show Parser Phrase from do
    if !d.filterClause then return Phrase.empty
    if !(← keyword "FILTER") then return Phrase.empty
    if !(← symbol "(") then return Phrase.empty
    if !(← keyword "WHERE") then return Phrase.empty
    let condition ← expr
    expectSymbol ")"
    return Phrase.word " FILTER (WHERE " ++ condition ++ Phrase.word ")")
  let treatment ← if args.treatsNulls then pure Phrase.empty else nullTreatment
  let frame ←
    if ← keyword "OVER" then do
      let window ← if ← symbol "(" then windowSpec interval else identPhrase
      pure (Phrase.word " OVER " ++ window)
    else pure Phrase.empty
  let nulls := if treatment.isEmpty then Phrase.empty else Phrase.word " " ++ treatment
  let phrase := Phrase.word name ++ parameters ++ args.phrase.parens ++ within ++ filter ++ nulls ++
    frame
  return phrase.mentioning [parameters, args.phrase, filter, frame, within]

end SqlLineage.Sql.Parser
