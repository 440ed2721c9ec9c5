import SqlLineage.Sql.Parser.Select

/-! Queries: common table expressions, set operations, and the clauses that follow them. -/

namespace SqlLineage.Sql.Parser

variable [Nesting]

/-! ### Common table expressions -/

def cte : Parser Cte := do
  let d ← dialect
  let name ← identifier
  let columns ← if ← peekKeyword "AS" then pure Phrase.empty else aliasColumns
  expectKeyword "AS"
  let materialized ←
    if d == .postgres then firstRun [["MATERIALIZED"], ["NOT", "MATERIALIZED"]]
    else pure Phrase.empty
  let body ← parens query
  let source ← after ["FROM"] identPhrase
  let text := Phrase.words
    [name.render, columns, "AS", materialized, Phrase.parens body.text, source]
  return ⟨name, text.text, body.mention⟩

/-- The common table expressions before a query, and whether they may refer to themselves. -/
def withClause : Parser (Bool × List Cte) := do
  if !(← keyword "WITH") then return (false, [])
  let recursive ← keyword "RECURSIVE"
  return (recursive, ← commaSeparated cte)

/-! ### Bodies -/

/-- A schema and a table, or a table alone, after TABLE; three tokens are read whatever they are. -/
def tableBody : Parser Phrase := do
  let first ← next
  let second ← next
  let third ← next
  let named (what : String) (l : Option Lexeme) : Parser String := match tokenOf l with
    | some (.word value _ _) => return value
    | _ => expected what l
  if isSymbol "." (tokenOf second) then
    let schema ← named "Schema name" first
    return "TABLE " ++ schema ++ "." ++ (← named "Table name" third)
  return "TABLE " ++ (← named "Table name" first)

def bodyPart : Parser Phrase := do
  if ← peekKeyword "SELECT" then select
  else if ← symbol "(" then
    let inside ← queryPhrase
    expectSymbol ")"
    return inside.parens
  else if ← keyword "VALUES" then rows (← choice (· == .mysql))
  else if ← keyword "TABLE" then tableBody
  else expectedNext "SELECT, VALUES, or a subquery in the query body"

def setQuantifier : Parser Phrase := do
  for ks in [["DISTINCT", "BY", "NAME"], ["BY", "NAME"], ["ALL", "BY", "NAME"], ["ALL"],
      ["DISTINCT"]] do
    if ← keywordRun ks then return Phrase.word (" ".intercalate ks)
  return Phrase.empty

/-- Bodies joined from the left by the set operations in `ops`. -/
def setOperations (ops : List String) (part : Parser Phrase) : Parser Phrase := do
  let first ← part
  loop first fun left => do
    match ← oneOf ops with
    | none => return none
    | some op =>
      let quantifier ← setQuantifier
      return some (Phrase.words [left, op, quantifier, ← part])

/-- A query body; INTERSECT binds more strongly than the other operations. -/
def body : Parser Phrase :=
  setOperations ["UNION", "EXCEPT", "MINUS"] (setOperations ["INTERSECT"] bodyPart)

/-! ### Order, limits and locks -/

def interpolation : Parser Phrase := do
  let name ← identPhrase
  if ← keyword "AS" then return Phrase.words [name, "AS", ← expr]
  return name

def queryOrder : Parser Phrase := do
  let keys ← orderBy
  if !(← given (!keys.isEmpty && (← dialect) == .generic) (keyword "INTERPOLATE")) then return keys
  if !(← symbol "(") then return Phrase.words [keys, "INTERPOLATE"]
  let items ← commaSeparated0 interpolation ")"
  expectSymbol ")"
  return Phrase.words [keys, "INTERPOLATE", (Phrase.list items).parens]

structure Limits where
  limit : Option Phrase := none
  offset : Option Phrase := none

def offsetClause : Parser Phrase := do
  let count ← expr
  match ← oneOf ["ROW", "ROWS"] with
  | some k => return Phrase.words [count, k]
  | none => return count

/-- LIMIT and OFFSET as far as they are not found yet. -/
def limitsAfter (found : Limits) : Parser Limits := do
  let limit ←
    if ← given found.limit.isNone (keyword "LIMIT") then
      if ← keyword "ALL" then pure none else some <$> expr
    else pure found.limit
  let offset ← if ← given found.offset.isNone (keyword "OFFSET") then some <$> offsetClause
    else pure found.offset
  if ← given ((← dialect).limitComma && limit.isSome && offset.isNone) (symbol ",") then
    return ⟨some (← expr), limit⟩
  return ⟨limit, offset⟩

def limits : Parser Limits := do limitsAfter (← limitsAfter {})

def fetchClause : Parser Phrase := do
  if !(← keyword "FETCH") then return Phrase.empty
  let _ ← expectOneOf ["FIRST", "NEXT"]
  let quantity ←
    if (← oneOf ["ROW", "ROWS"]).isSome then pure Phrase.empty
    else do
      let count ← value
      let percent ← flag ["PERCENT"]
      let _ ← expectOneOf ["ROW", "ROWS"]
      pure (Phrase.words [count, percent])
  let ties ←
    if ← keyword "ONLY" then pure "ONLY"
    else do
      if ← keywordRun ["WITH", "TIES"] then pure "WITH TIES"
      else expectedNext "one of ONLY or WITH TIES"
  return Phrase.words ["FETCH FIRST", quantity, "ROWS", ties]

def lock : Parser Lock := do
  let sort ← expectOneOf ["UPDATE", "SHARE"]
  let table ← if ← keyword "OF" then some <$> objectName else pure none
  let waiting ← if ← keyword "NOWAIT" then pure "NOWAIT"
    else pure (if ← keywordRun ["SKIP", "LOCKED"] then "SKIP LOCKED" else "")
  return ⟨sort, table, waiting⟩

def rootName (name : String) : Parser String :=
  return name ++ "('" ++ (← parens literalString) ++ "')"

/-- The form of the rows' text after FOR XML. -/
def xmlClause : Parser String := do
  let element (k : String) : Parser String := do
    if ← peekSymbol "(" then rootName k else return k
  let form ← match ← oneOf ["RAW", "AUTO", "EXPLICIT", "PATH"] with
    | some "RAW" => element "RAW"
    | some "PATH" => element "PATH"
    | some k => pure k
    | none => fail (.unexpected "Expected FOR XML [RAW | AUTO | EXPLICIT | PATH ]")
  let (base64, type, root, elements) ← loop (false, false, "", false)
    fun (base64, type, root, elements) => do
      if !(← symbol ",") then return none
      if ← keyword "ELEMENTS" then return some (base64, type, root, true)
      if ← keyword "BINARY" then
        expectKeyword "BASE64"
        return some (true, type, root, elements)
      if ← keyword "ROOT" then return some (base64, type, ← rootName "ROOT", elements)
      if ← keyword "TYPE" then return some (base64, true, root, elements)
      return some (base64, type, root, elements)
  let options := [if base64 then "BINARY BASE64" else "", if type then "TYPE" else "", root,
    if elements then "ELEMENTS" else ""].filter fun o => !o.isEmpty
  return commaList (("FOR XML " ++ form) :: options)

/-- The form of the rows' text after FOR JSON. -/
def jsonClause : Parser String := do
  let form ← match ← oneOf ["AUTO", "PATH"] with
    | some k => pure k
    | none => fail (.unexpected "Expected FOR JSON [AUTO | PATH ]")
  let (root, nulls, bare) ← loop ("", false, false) fun (root, nulls, bare) => do
    if !(← symbol ",") then return none
    if ← keyword "ROOT" then return some (← rootName "ROOT", nulls, bare)
    if ← keyword "INCLUDE_NULL_VALUES" then return some (root, true, bare)
    if ← keyword "WITHOUT_ARRAY_WRAPPER" then return some (root, nulls, true)
    return some (root, nulls, bare)
  let options := [root, if nulls then "INCLUDE_NULL_VALUES" else "",
    if bare then "WITHOUT_ARRAY_WRAPPER" else ""].filter fun o => !o.isEmpty
  return commaList (("FOR JSON " ++ form) :: options)

/-- The clauses that FOR opens: any number of locks, and then a form for the rows' text. -/
def forClauses : Parser (List Lock × String) :=
  loop ([], "") fun (locks, form) => do
    if !(← given form.isEmpty (keyword "FOR")) then return none
    if ← keyword "XML" then return some (locks, ← xmlClause)
    if ← keyword "JSON" then return some (locks, ← jsonClause)
    if ← keyword "BROWSE" then return some (locks, "FOR BROWSE")
    return some (locks ++ [← lock], "")

def formatClause : Parser String := do
  if !(← given ((← dialect) == .generic) (keyword "FORMAT")) then return ""
  if ← keyword "NULL" then return "FORMAT NULL"
  return "FORMAT " ++ (← identifier).render

/-! ### The whole -/

/-- A query; `insert` and `update` read the statements that may stand in place of its body. -/
@[nospecialize] def queryWith (insert update : Parser Phrase) : Parser Query := do
  let (recursive, ctes) ← withClause
  if ← keyword "INSERT" then return { recursive, ctes, body := ← insert }
  if ← keyword "UPDATE" then return { recursive, ctes, body := ← update }
  let body ← body
  let orderBy ← queryOrder
  let limits ← limits
  let limitBy ← if (← dialect) == .generic then after ["BY"] exprs else pure Phrase.empty
  let settings ← settings
  let fetch ← fetchClause
  let (locks, form) ← forClauses
  let format ← formatClause
  let clause (k : String) (p : Option Phrase) : Phrase := match p with
    | some p => Phrase.words [k, p]
    | none => Phrase.empty
  return { recursive, ctes, body, orderBy, limitBy, fetch, locks, form, settings, format,
           limit := clause "LIMIT" limits.limit, offset := clause "OFFSET" limits.offset }

end SqlLineage.Sql.Parser
