import SqlLineage.Sql.Parser.Operator

/-! Tables made of JSON documents: the document, the path into it, and the columns that the values
found there fill. -/

namespace SqlLineage.Sql.Parser

variable [Nesting]

/-- What a column holds where its path finds nothing or goes wrong. -/
def fallback : Parser (Option Phrase) := do
  let found ←
    if ← keyword "NULL" then pure (Phrase.word "NULL")
    else if ← keyword "ERROR" then pure (Phrase.word "ERROR")
    else if ← keyword "DEFAULT" then do pure (Phrase.words ["DEFAULT", ← value])
    else return none
  expectKeyword "ON"
  return some found

/-- The fallbacks of a column, the one for missing values first. -/
def fallbacks : Parser Phrase := do
  let (onEmpty, onError) ← loop (Phrase.empty, Phrase.empty) fun (onEmpty, onError) => do
    match ← fallback with
    | none => return none
    | some found =>
      if ← keyword "EMPTY" then return some (Phrase.words [found, "ON EMPTY"], onError)
      expectKeyword "ERROR"
      return some (onEmpty, Phrase.words [found, "ON ERROR"])
  return Phrase.words [onEmpty, onError]

/-- A column of a document table; the tokens left bound how deep columns are nested. -/
def documentColumnWithin : Stream → Parser Phrase
  | [] => expectedNext "identifier"
  | _ :: bound => do
    if ← keyword "NESTED" then
      let _ ← keyword "PATH"
      let path ← value
      expectKeyword "COLUMNS"
      let columns ← parens (listOf (documentColumnWithin bound))
      return Phrase.words ["NESTED PATH", path, "COLUMNS", columns.parens]
    let name ← identPhrase
    if ← keyword "FOR" then
      expectKeyword "ORDINALITY"
      return Phrase.words [name, "FOR ORDINALITY"]
    let type ← typePhrase
    let isThere ← flag ["EXISTS"]
    expectKeyword "PATH"
    let path ← value
    return Phrase.words [name, type, isThere, "PATH", path, ← fallbacks]

def documentColumn : Parser Phrase := do documentColumnWithin (← rest)

/-- The rows of a document, after the keyword JSON_TABLE and the opening parenthesis. -/
def documentTable : Parser Phrase := do
  let document ← expr
  expectSymbol ","
  let path ← value
  expectKeyword "COLUMNS"
  let columns ← parens (listOf documentColumn)
  expectSymbol ")"
  let inside := document ++ Phrase.word ", " ++ path ++ Phrase.word " COLUMNS" ++ columns.parens
  return Phrase.word "JSON_TABLE" ++ inside.parens

/-- A column of an opened document: its path may be left out. -/
def openedColumn : Parser Phrase := do
  let name ← identPhrase
  let type ← typePhrase
  let path ← match ← peekToken with
    | some (.text .single path) => do
      let _ ← next
      pure (Phrase.word (singleQuoted path))
    | _ => pure Phrase.empty
  let asJson ← if ← keyword "AS" then do
      expectKeyword "JSON"
      pure (Phrase.word "AS JSON")
    else pure Phrase.empty
  return Phrase.words [name, type, path, asJson]

/-- The members of a document as rows, after the keyword OPENJSON and the opening parenthesis. -/
def openedDocument : Parser Phrase := do
  let document ← expr
  let path ← if ← symbol "," then do pure (Phrase.word ", " ++ (← value)) else pure Phrase.empty
  expectSymbol ")"
  let columns ← if ← keyword "WITH" then do
      pure (Phrase.words ["WITH", (← parens (listOf openedColumn)).parens])
    else pure Phrase.empty
  return Phrase.words [Phrase.word "OPENJSON" ++ (document ++ path).parens, columns]

/-- A table made of a document, if one is next. -/
def documentFactor? : Parser (Option Phrase) := do
  if !isSymbol "(" (← peekNth 1) then return none
  match ← oneOf ["JSON_TABLE", "OPENJSON"] with
  | none => return none
  | some k =>
    expectSymbol "("
    if k == "JSON_TABLE" then some <$> documentTable else some <$> openedDocument

end SqlLineage.Sql.Parser
