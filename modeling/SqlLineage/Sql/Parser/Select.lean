import SqlLineage.Sql.Parser.Table
import SqlLineage.Text.LowerCase

/-! One SELECT with its clauses. -/

namespace SqlLineage.Sql.Parser

variable [Nesting]

/-! ### Select list -/

/-- What a wildcard leaves out, replaces or renames. -/
def wildcardOptions : Parser Phrase := do
  let d ← dialect
  let ilike ← (show Parser Phrase from do
    if !(← given (d == .generic || d == .snowflake) (keyword "ILIKE")) then return Phrase.empty
    let found ← next
    match tokenOf found with
    | some (.text .single pattern) => return "ILIKE " ++ singleQuoted pattern
    | _ => expected "ilike pattern" found)
  let exclude ← (show Parser Phrase from do
    if !ilike.isEmpty || !(d == .generic || d == .duckdb || d == .snowflake) then
      return Phrase.empty
    if !(← keyword "EXCLUDE") then return Phrase.empty
    if ← peekSymbol "(" then return Phrase.words ["EXCLUDE", (identList (← columnList)).parens]
    return Phrase.words ["EXCLUDE", ← identPhrase])
  let except ← (show Parser Phrase from do
    if !(← given d.wildcardExcept (keyword "EXCEPT")) then return Phrase.empty
    if ← peekSymbol "(" then return Phrase.words ["EXCEPT", (identList (← columnList)).parens]
    return Phrase.words ["EXCEPT", (← identPhrase).parens])
  let replace ← (show Parser Phrase from do
    if !(d == .generic || d == .bigquery || d == .duckdb || d == .snowflake) then
      return Phrase.empty
    if !(← keyword "REPLACE") then return Phrase.empty
    if !(← symbol "(") then expectedNext "( after REPLACE but"
    let items ← listOf do
      let e ← expr
      let as ← flag ["AS"]
      return Phrase.words [e, as, ← identPhrase]
    expectSymbol ")"
    return Phrase.words ["REPLACE", items.parens])
  let rename ← (show Parser Phrase from do
    if !(← given (d == .generic || d == .snowflake) (keyword "RENAME")) then return Phrase.empty
    let item : Parser Phrase := do
      let name ← identPhrase
      expectKeyword "AS"
      return Phrase.words [name, "AS", ← identPhrase]
    if ← peekSymbol "(" then return Phrase.words ["RENAME", (← parens (listOf item)).parens]
    return Phrase.words ["RENAME", ← item])
  return Phrase.words [ilike, exclude, except, replace, rename]

/-- The words that go on with a query and never name a select item without AS. -/
def afterSelectItem : List String :=
  ["FROM", "GROUP", "HAVING", "INTERSECT", "INTO", "MINUS", "ORDER", "SELECT", "UNION", "WHERE",
    "WITH"]

/-- The word may name a select item without AS where keywords are free unless what follows gives
them a meaning. -/
def namesFreely (k : String) (following : Option Token) : Bool :=
  if ["EXCEPT", "LIMIT", "OFFSET", "RETURNING"].contains k then
    following.isNone || isSymbol "," following
  else if k == "FETCH" then !(isKeyword "FIRST" following || isKeyword "NEXT" following)
  else !afterSelectItem.contains k

def selectAlias : Parser (Option Ident) := do
  if (← dialect).keywordAliases then aliasWhere namesFreely else optionalAlias notColumnAlias

def selectItem : Parser Phrase := do
  match ← wildcard with
  | some none => return Phrase.words ["*", ← wildcardOptions]
  | some (some name) => return Phrase.words [ObjectName.render name ++ ".*", ← wildcardOptions]
  | none =>
    let e ← Nesting.subexpr 0
    if let [⟨name, none⟩] := e.path then
      if Text.lowerCase name == "from" then
        fail (.unexpected ("Expected an expression, found: " ++ name ++ placeText (← peek)))
    if (← dialect).aliasByEquals then
      if let some (name, right) := e.equation then
        return Phrase.words [right, "AS", name.render]
    match ← selectAlias with
    | some name => return Phrase.words [e.phrase, "AS", name.render]
    | none => return e.phrase

def selectItems : Parser Phrase := do
  let trailing ← choice (·.projectionTrailingComma)
  return Phrase.list (← separatedWith trailing notColumnAlias selectItem)

def selectList : Parser Phrase := do
  if (← dialect).emptyProjection && (← peekKeyword "FROM") then return Phrase.empty
  selectItems

/-! ### Clauses -/

def distinctClause : Parser Phrase := do
  let start ← peek
  let all ← keyword "ALL"
  if !(← keyword "DISTINCT") then return Phrase.empty
  if all then fail (.unexpected ("Cannot specify both ALL and DISTINCT" ++ placeText start))
  if !(← keyword "ON") then return "DISTINCT"
  expectSymbol "("
  let keys ← if ← peekSymbol ")" then pure Phrase.empty else exprs
  expectSymbol ")"
  return Phrase.words ["DISTINCT ON", keys.parens]

/-- How many rows are kept, after the keyword. -/
def topClause : Parser Phrase := do
  let quantity ← if ← peekSymbol "(" then do pure (← parens expr).parens else countPhrase
  let percent ← flag ["PERCENT"]
  return Phrase.words ["TOP", quantity, percent, ← flag ["WITH", "TIES"]]

def intoClause : Parser Phrase := do
  if !(← keyword "INTO") then return Phrase.empty
  let temporary ← oneOf ["TEMP", "TEMPORARY"]
  let unlogged ← flag ["UNLOGGED"]
  let table ← flag ["TABLE"]
  let name ← namePhrase
  return Phrase.words
    ["INTO", if temporary.isSome then "TEMPORARY" else "", unlogged, table, name]

def lateralView : Parser (Option Phrase) := do
  if !(← keywordRun ["LATERAL", "VIEW"]) then return none
  let outer ← flag ["OUTER"]
  let e ← expr
  let name ← namePhrase
  let columns ← commaSeparated (optionalAlias ["WHERE", "GROUP", "CLUSTER", "HAVING", "LATERAL"])
  let columns := columns.filterMap id
  let named := if columns.isEmpty then Phrase.empty else Phrase.words ["AS", identList columns]
  return some (Phrase.words ["LATERAL VIEW", outer, e, name, named])

/-- Expressions in parentheses; with `single` one may stand without them. -/
def groupingSet (single : Bool) : Parser (List Phrase) := do
  if single && !(← peekSymbol "(") then return [← expr]
  expectSymbol "("
  if ← symbol ")" then return []
  let items ← commaSeparated expr
  expectSymbol ")"
  return items

def groupingSetsIn (name : String) (single : Bool) : Parser Phrase := do
  let sets ← parens (commaSeparated (groupingSet single))
  let shown := sets.map fun set => match single, set with
    | true, [e] => e
    | _, es => (Phrase.list es).parens
  return Phrase.words [name, (Phrase.list shown).parens]

def groupingKey : Parser Phrase := do
  if !(← dialect).groupingSets then return ← expr
  if ← keywordRun ["GROUPING", "SETS"] then return ← groupingSetsIn "GROUPING SETS" false
  if ← keyword "CUBE" then return ← groupingSetsIn "CUBE" true
  if ← keyword "ROLLUP" then return ← groupingSetsIn "ROLLUP" true
  if ← symbols ["(", ")"] then return "()"
  expr

def groupBy : Parser Phrase := do
  if !(← keywordRun ["GROUP", "BY"]) then return Phrase.empty
  let keys ← if ← keyword "ALL" then pure (Phrase.word "ALL") else listOf groupingKey
  let modified ← choice (·.groupByModifiers)
  let modifiers ← many do
    if !(← given modified (keyword "WITH")) then return none
    return some (Phrase.word ("WITH " ++ (← expectOneOf ["ROLLUP", "CUBE", "TOTALS"])))
  return Phrase.words ["GROUP BY", keys, Phrase.words modifiers]

def namedWindow : Parser Phrase := do
  let name ← identPhrase
  expectKeyword "AS"
  let window ←
    if ← symbol "(" then windowSpec interval
    else if (← dialect).namedWindowReference then identPhrase
    else expectedNext "("
  return Phrase.words [name, "AS", window]

def windowClause : Parser Phrase := after ["WINDOW"] (listOf namedWindow)

def qualifyClause : Parser Phrase := after ["QUALIFY"] expr

/-- A walk along a hierarchy of rows. -/
def hierarchy : Parser Phrase := do
  if !(← dialect).hierarchicalQueries || !(← peekOneOf ["START", "CONNECT"]) then
    return Phrase.empty
  let links : Parser Phrase := hierarchically exprs
  let (start, links) ← (show Parser (Phrase × Phrase) from do
    if ← keywordRun ["CONNECT", "BY"] then
      let links ← links
      expectKeywords ["START", "WITH"]
      return (← expr, links)
    expectKeywords ["START", "WITH"]
    let start ← expr
    expectKeywords ["CONNECT", "BY"]
    return (start, ← links))
  return Phrase.words ["START WITH", start, "CONNECT BY", links]

/-- What kind of value each row becomes. -/
def valueMode : Parser Phrase := do
  if (← dialect) != .bigquery then return Phrase.empty
  if ← keywordRun ["AS", "VALUE"] then return "AS VALUE"
  if ← keywordRun ["AS", "STRUCT"] then return "AS STRUCT"
  if ← keyword "AS" then expectedNext "VALUE or STRUCT"
  return Phrase.empty

/-! ### The whole -/

/-- A query block from its keyword on. -/
def select : Parser Phrase := do
  let d ← dialect
  expectKeyword "SELECT"
  let mode ← valueMode
  let top : Parser Phrase := do
    if ← keyword "TOP" then topClause else return Phrase.empty
  let topFirst ← if d.topBeforeDistinct then top else pure Phrase.empty
  let distinct ← distinctClause
  let topLast ← if d.topBeforeDistinct then pure Phrase.empty else top
  let items ← selectList
  let into ← intoClause
  let sources ← after ["FROM"] fromList
  let views ← many lateralView
  let prewhere ← if d == .generic then after ["PREWHERE"] expr else pure Phrase.empty
  let condition ← after ["WHERE"] expr
  let groups ← groupBy
  let cluster ← after ["CLUSTER", "BY"] exprs
  let distribute ← after ["DISTRIBUTE", "BY"] exprs
  let sort ← after ["SORT", "BY"] exprs
  let having ← after ["HAVING"] expr
  let windows ← windowClause
  let qualify ← qualifyClause
  let windowsLast ← if windows.isEmpty then windowClause else pure Phrase.empty
  let hierarchy ← hierarchy
  let views := Phrase.words views
  let phrase := Phrase.words ["SELECT", mode, topFirst, distinct, topLast, items, into, sources,
    views, prewhere, condition, groups, cluster, distribute, sort, having, windows, qualify,
    windowsLast, hierarchy]
  return phrase.mentioning [distinct, topFirst, topLast, items, sources, views, prewhere, condition,
    groups, cluster, distribute, sort, having, windows, windowsLast, qualify, hierarchy]

end SqlLineage.Sql.Parser
