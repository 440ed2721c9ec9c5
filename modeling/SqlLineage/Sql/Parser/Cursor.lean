import SqlLineage.Sql.Parser.Session

/-! Cursors and variables: what a script declares and fetches. -/

namespace SqlLineage.Sql.Parser

variable [Nesting]

/-! ### Declarations -/

/-- A cursor over a query. -/
def declareCursor : Parser Phrase := do
  let name ← identPhrase
  let binary ← flag ["BINARY"]
  let sensitivity ← firstRun [["INSENSITIVE"], ["ASENSITIVE"]]
  let scroll ← firstRun [["SCROLL"], ["NO", "SCROLL"]]
  expectKeyword "CURSOR"
  let hold ← match ← oneOf ["WITH", "WITHOUT"] with
    | some k => do
      expectKeyword "HOLD"
      pure (Phrase.word (k ++ " HOLD"))
    | none => pure Phrase.empty
  expectKeyword "FOR"
  return Phrase.words
    ["DECLARE", name, binary, sensitivity, scroll, "CURSOR", hold, "FOR", ← queryPhrase]

/-- Variables of one type with a default. -/
def declareDefaulted : Parser Phrase := do
  let names ← listOf identPhrase
  let type ← if ← peekKeyword "DEFAULT" then pure Phrase.empty else typePhrase
  let default ← after ["DEFAULT"] expr
  return Phrase.words ["DECLARE", names, type, default]

/-- A variable whose name starts with an at sign. -/
def declareMarked : Parser Phrase := do
  let declared ← commaSeparated do
    let name ← identifier
    if name.value.toList.head? != some '@' then
      fail (.unexpected "Invalid MsSql variable declaration.")
    let type ← if ← keyword "CURSOR" then pure (Phrase.word "CURSOR")
      else do
        let _ ← keyword "AS"
        typePhrase
    let value ← if ← symbol "=" then do pure (Phrase.words ["=", ← expr])
      else pure Phrase.empty
    return Phrase.words [name.render, type, value]
  return Phrase.words ["DECLARE", Phrase.joined "; " declared]

/-- The value that a declared variable starts with. -/
def startingValue : Parser Phrase := do
  if ← symbol ":=" then return Phrase.words [":=", ← expr]
  after ["DEFAULT"] expr

/-- One of several declarations with semicolons between. -/
def scriptVariable : Parser Phrase := do
  let name ← identPhrase
  if ← keyword "CURSOR" then
    expectKeyword "FOR"
    let source ← if ← peekKeyword "SELECT" then queryPhrase else expr
    return Phrase.words [name, "CURSOR FOR", source]
  if ← keyword "RESULTSET" then return Phrase.words [name, "RESULTSET", ← startingValue]
  if ← keyword "EXCEPTION" then
    let code ← if ← peekSymbol "(" then expr else pure Phrase.empty
    return Phrase.words [name, "EXCEPTION", code]
  let value ← startingValue
  if !value.isEmpty then return Phrase.words [name, value]
  match ← peekToken with
  | some (.word ..) =>
    let type ← typePhrase
    return Phrase.words [name, type, ← startingValue]
  | _ => return name

/-- Declarations that go on while a word that is no keyword follows a semicolon. -/
def declareScript : Parser Phrase := do
  let first ← scriptVariable
  let declared ← loop [first] fun declared => do
    if !(← peekSymbol ";") then return none
    match ← peekNth 1 with
    | some (.word value _ _) =>
      if keywords.contains (keywordOf value) then return none
      let _ ← next
      return some ((← scriptVariable) :: declared)
    | _ => return none
  return Phrase.words ["DECLARE", Phrase.joined "; " declared.reverse]

/-- A DECLARE statement after its keyword. -/
def declare : Parser Phrase := do
  match ← dialect with
  | .bigquery => declareDefaulted
  | .snowflake => declareScript
  | .mssql => declareMarked
  | _ => declareCursor

/-! ### Fetching -/

def fetchDirection : Parser Phrase := do
  if let some k ← oneOf ["NEXT", "PRIOR", "FIRST", "LAST", "ALL"] then return k
  if let some k ← oneOf ["ABSOLUTE", "RELATIVE"] then return Phrase.words [k, ← numberValue]
  if let some k ← oneOf ["FORWARD", "BACKWARD"] then
    if ← keyword "ALL" then return k ++ " ALL"
    return Phrase.words [k, ← numberValue]
  numberValue

/-- A FETCH statement after its keyword. -/
def fetch : Parser Phrase := do
  let direction ← fetchDirection
  let _ ← expectOneOf ["FROM", "IN"]
  let name ← identPhrase
  return Phrase.words ["FETCH", direction, "IN", name, ← after ["INTO"] namePhrase]

def close : Parser Phrase := do
  if ← keyword "ALL" then return "CLOSE ALL"
  return Phrase.words ["CLOSE", ← identPhrase]

end SqlLineage.Sql.Parser
