import SqlLineage.Sql.Parser.CreateTable

/-! Functions, macros and procedures. -/

namespace SqlLineage.Sql.Parser

variable [Nesting]

/-- An argument of a function. What reads as a type of the user is taken for the name of the
argument: the first part of it, whatever follows. -/
def functionArgument : Parser Phrase := do
  let mode := (← oneOf ["IN", "OUT", "INOUT"]).getD ""
  let start ← peekToken
  let type ← dataType
  let (name, type) ← (show Parser (Phrase × Phrase) from do
    if type.form != .custom then return (Phrase.empty, type.text)
    let name := (start.bind identOf?).map Ident.render
    return (name.getD "", ← typePhrase))
  let default ← if ← keyword "DEFAULT" then some <$> expr
    else do if ← symbol "=" then some <$> expr else pure none
  let value := match default with
    | some e => Phrase.words ["=", e]
    | none => Phrase.empty
  return Phrase.words [mode, name, type, value]

/-- A function or procedure and the types of its arguments. -/
def functionSignature : Parser Phrase := do
  let name ← namePhrase
  if !(← symbol "(") then return name
  if ← symbol ")" then return name
  let args ← listOf functionArgument
  expectSymbol ")"
  return name ++ args.parens

def functionArguments : Parser Phrase := do
  expectSymbol "("
  if ← symbol ")" then return Phrase.empty
  let args ← listOf functionArgument
  expectSymbol ")"
  return args.parens

def bodyText : Parser Phrase := do
  let d ← dialect
  match ← peekToken with
  | some (.dollarText ..) => if d == .postgres || d == .generic then value else quotedLiteral
  | _ => quotedLiteral

/-- The properties of a function, each of which may be given once. -/
structure FunctionProperties where
  language : Phrase := Phrase.empty
  behavior : Phrase := Phrase.empty
  nulls : Phrase := Phrase.empty
  parallel : Phrase := Phrase.empty
  body : Phrase := Phrase.empty

def functionProperty (p : FunctionProperties) : Parser (Option FunctionProperties) := do
  let once (old : Phrase) (name : String) : Parser Unit := do
    if !old.isEmpty then fail (.unexpected (name ++ " specified more than once"))
  if ← keyword "AS" then
    once p.body "AS"
    return some { p with body := Phrase.words ["AS", ← bodyText] }
  if ← keyword "LANGUAGE" then
    once p.language "LANGUAGE"
    return some { p with language := Phrase.words ["LANGUAGE", ← identPhrase] }
  if let some k ← oneOf ["IMMUTABLE", "STABLE", "VOLATILE"] then
    once p.behavior "IMMUTABLE | STABLE | VOLATILE"
    return some { p with behavior := k }
  for ks in [["CALLED", "ON", "NULL", "INPUT"], ["RETURNS", "NULL", "ON", "NULL", "INPUT"],
      ["STRICT"]] do
    if ← keywordRun ks then
      once p.nulls "CALLED ON NULL INPUT | RETURNS NULL ON NULL INPUT | STRICT"
      return some { p with nulls := Phrase.word (" ".intercalate ks) }
  if ← keyword "PARALLEL" then
    once p.parallel "PARALLEL \x7b UNSAFE | RESTRICTED | SAFE \x7d"
    match ← oneOf ["UNSAFE", "RESTRICTED", "SAFE"] with
    | some k => return some { p with parallel := "PARALLEL " ++ k }
    | none => expectedNext "one of UNSAFE | RESTRICTED | SAFE"
  if ← keyword "RETURN" then
    once p.body "RETURN"
    return some { p with body := Phrase.words ["RETURN", ← expr] }
  return none

def createFunction (m : CreateModifiers) : Parser Phrase := do
  let name ← namePhrase
  let args ← functionArguments
  let returns ← after ["RETURNS"] typePhrase
  let p ← loop {} functionProperty
  return Phrase.words ["CREATE", m.replaceText, m.temporaryText, "FUNCTION", name ++ args, returns,
    p.language, p.behavior, p.nulls, p.parallel, p.body]

/-- A function that a class of a library gives. -/
def createClassFunction (m : CreateModifiers) : Parser Phrase := do
  let name ← namePhrase
  expectKeyword "AS"
  let body ← bodyText
  let library ← if ← keyword "USING" then do
      let sort ← expectOneOf ["JAR", "FILE", "ARCHIVE"]
      pure (Phrase.words ["USING", sort, ← rawLiteral])
    else pure Phrase.empty
  return Phrase.words
    ["CREATE", m.replaceText, m.temporaryText, "FUNCTION", name, "AS", body, library]

/-- A function whose options stand before or after its body, or one that runs elsewhere. -/
def createQueryFunction (m : CreateModifiers) : Parser Phrase := do
  let condition ← ifNotExists
  let name ← namePhrase
  let parameter : Parser Phrase := do
    let name ← identPhrase
    return Phrase.words [name, ← typePhrase]
  expectSymbol "("
  let args ← commaSeparated0 parameter ")"
  expectSymbol ")"
  let returns ← after ["RETURNS"] typePhrase
  let determinism ← if ← keyword "DETERMINISTIC" then pure (Phrase.word "DETERMINISTIC")
    else flag ["NOT", "DETERMINISTIC"]
  let language ← after ["LANGUAGE"] identPhrase
  let remote ← after ["REMOTE", "WITH", "CONNECTION"] namePhrase
  let early ← optionsClause
  let (body, late) ← (show Parser (Phrase × Option Phrase) from do
    if !remote.isEmpty then return (Phrase.empty, none)
    expectKeyword "AS"
    let body ← expr
    return (Phrase.words ["AS", body], ← if early.isNone then optionsClause else pure none))
  return Phrase.words ["CREATE", m.replaceText, m.temporaryText, "FUNCTION", condition,
    name ++ (Phrase.list args).parens, returns, determinism, language, remote,
    early.getD Phrase.empty, body, late.getD Phrase.empty]

def createMacro (m : CreateModifiers) : Parser Phrase := do
  let name ← namePhrase
  expectSymbol "("
  let argument : Parser Phrase := do
    let name ← identPhrase
    if ← symbol ":=" then return Phrase.words [name, ":=", ← expr]
    if ← symbol "=>" then return Phrase.words [name, ":=", ← expr]
    return name
  let args ← if ← peekSymbol ")" then pure Phrase.empty else listOf argument
  expectSymbol ")"
  expectKeyword "AS"
  let body ← if ← keyword "TABLE" then do pure (Phrase.words ["TABLE", ← queryPhrase])
    else expr
  let args := if args.isEmpty then Phrase.empty else args.parens
  return Phrase.words
    ["CREATE", m.replaceText, m.temporaryText, "MACRO", name ++ args, "AS", body]

/-- The parameters of a procedure; a comma may stand at either end of them. -/
def procedureParameters : Parser Phrase := do
  if !(← symbol "(") then return Phrase.empty
  if ← symbol ")" then return Phrase.empty
  let (parameters, _) ← loop ([], false) fun (parameters, ended) => do
    if ended then return none
    let parameters ← match ← peekToken with
      | some (.word ..) => do
        let name ← identPhrase
        pure (Phrase.words [name, ← typePhrase] :: parameters)
      | _ => pure parameters
    let comma ← symbol ","
    if ← symbol ")" then return some (parameters, true)
    if !comma then expectedNext "',' or ')' after parameter definition"
    return some (parameters, false)
  return listInParens parameters.reverse

def createProcedure (m : CreateModifiers) : Parser Phrase := do
  let name ← namePhrase
  let parameters ← procedureParameters
  expectKeyword "AS"
  expectKeyword "BEGIN"
  let body ← script statement
  expectKeyword "END"
  let opening := if m.orAlter then "CREATE OR ALTER PROCEDURE" else "CREATE PROCEDURE"
  return Phrase.words [opening, name, parameters, "AS BEGIN"] ++ Phrase.word " " ++
    Phrase.joined "; " (body.map Statement.phrase) ++ Phrase.word " END"

end SqlLineage.Sql.Parser
