import SqlLineage.Sql.Parser.CreateTable

/-! Stages: places where files wait to be loaded into a table, and what is done with the files. -/

namespace SqlLineage.Sql.Parser

/-! ### Names -/

/-- One part of the name of a stage: tokens without white space between, up to a period or a closing
parenthesis. -/
def stagePart (opening : String) : Parser Ident := do
  let (name, _) ← loop (opening, false) fun (name, ended) => do
    if ended then return none
    let start ← rest
    match tokenOf (← nextRaw) with
    | none => return none
    | some (.word value _ _) => return some (name ++ value, false)
    | some (.symbol s) =>
      if s == "." || s == ")" then
        resume start
        return none
      if ["@", "~", "%", "/"].contains s then return some (name ++ s, false)
      expectedNext "stage name identifier"
    | some t => if t.isBlank then return some (name, true) else expectedNext "stage name identifier"
  return Ident.bare name

/-- The name of a stage, which starts with an at sign, or of a table. -/
def stageName : Parser Phrase := do
  if !(← symbol "@") then return ← namePhrase
  let first ← stagePart "@"
  let parts ← loop [first] fun parts => do
    if ← symbol "." then return some ((← stagePart "") :: parts) else return none
  return ObjectName.render parts.reverse

/-! ### Options -/

/-- A string between single quotes; where it is missing a message shows the token after. -/
def stageText (what : String) : Parser Phrase := do
  match tokenOf (← next) with
  | some (.text .single value) => return Phrase.word ("'" ++ value ++ "'")
  | _ => expectedNext what

def loadingValue : Parser String := do
  if let some k ← oneOf ["TRUE", "FALSE"] then return k
  match tokenOf (← next) with
  | some (.text .single value) => return "'" ++ value ++ "'"
  | some (.word value _ _) => return value
  | some (.number digits _) => return digits
  | _ => expectedNext "expected option value"

/-- Names and values in parentheses; the commas between them may be left out. -/
def loadingOptions : Parser Phrase := do
  expectSymbol "("
  let (options, _) ← loop ([], false) fun (options, ended) => do
    if ended then return none
    match tokenOf (← next) with
    | some (.symbol ")") => return some (options, true)
    | some (.symbol ",") => return some (options, false)
    | some (.word name _ _) =>
      expectSymbol "="
      return some (Phrase.word (name ++ "=" ++ (← loadingValue)) :: options, false)
    | _ => expectedNext "another option or ')'"
  return Phrase.words options.reverse

/-- A keyword, an equals sign and what `p` reads. -/
def stageSetting (k : String) (p : Parser Phrase) : Parser Phrase := do
  if !(← keyword k) then return Phrase.empty
  expectSymbol "="
  return Phrase.word (k ++ "=") ++ (← p)

/-- Options after a keyword; nothing is written back where there are none. -/
def stageOptions (k : String) : Parser Phrase := do
  if !(← keyword k) then return Phrase.empty
  expectSymbol "="
  let options ← loadingOptions
  return if options.isEmpty then options else Phrase.word (k ++ "=") ++ options.parens

def tokenText : Parser Phrase := return ((tokenOf (← next)).map Token.render).getD "EOF"

/-- Where the files of a stage lie and how they are reached. -/
def stageParameters : Parser Phrase := do
  let url ← stageSetting "URL" (stageText "a URL statement")
  let integration ← stageSetting "STORAGE_INTEGRATION" tokenText
  let endpoint ← stageSetting "ENDPOINT" (stageText "an endpoint statement")
  let credentials ← stageOptions "CREDENTIALS"
  return Phrase.words [url, integration, endpoint, credentials, ← stageOptions "ENCRYPTION"]

/-! ### Statements -/

/-- CREATE STAGE after its keywords. -/
def createStage (m : CreateModifiers) : Parser Phrase := do
  let condition ← ifNotExists
  let name ← namePhrase
  let parameters ← stageParameters
  let directory ← stageOptions "DIRECTORY"
  let format ← stageOptions "FILE_FORMAT"
  let options ← stageOptions "COPY_OPTIONS"
  let comment ← stageSetting "COMMENT" (stageText "a comment statement")
  return Phrase.words ["CREATE", m.replaceText, m.temporaryText, "STAGE", condition, name,
    parameters, directory, format, options, comment]

/-- The number of a column of a file from its placeholder. -/
def columnNumber (mark : String) : Parser Phrase := do
  let cs := mark.toList.drop 1
  let problem reason := fail (.unexpected ("Could not parse '" ++ mark ++ "' as i32: " ++ reason))
  if cs.isEmpty then problem "cannot parse integer from empty string"
  else if !cs.all Dialect.isDigit then problem "invalid digit found in string"
  else if Nat.pow 2 31 ≤ digitsToNat cs then problem "number too large to fit in target type"
  else return "$" ++ toString (digitsToNat cs)

def bareWord (what : String) : Parser Phrase := do
  match tokenOf (← next) with
  | some (.word value _ _) => return value
  | _ => expectedNext what

/-- A column of a file, or a part of one, as a table takes it. -/
def loadedColumn : Parser Phrase := do
  let found ← next
  let column ← match tokenOf found with
    | some (.placeholder mark) => columnNumber mark
    | some (.word value _ _) => do
      expectSymbol "."
      let found ← next
      match tokenOf found with
      | some (.placeholder mark) => pure (Phrase.word (value ++ ".") ++ (← columnNumber mark))
      | _ => expected "file_col_num" found
    | _ => expected "alias or file_col_num" found
  let element ← if ← symbol ":" then do pure (Phrase.word ":" ++ (← bareWord "file_col_num"))
    else pure Phrase.empty
  return Phrase.words [column ++ element, ← after ["AS"] (bareWord "column item alias")]

/-- A stage and how it is reached, under a name perhaps. -/
def stageSource : Parser Phrase := do
  let name ← stageName
  let parameters ← stageParameters
  return Phrase.words [name, parameters, ← after ["AS"] (bareWord "stage alias")]

/-- The files that are loaded, by their names. -/
def stagedFiles : Parser Phrase := do
  if !(← keyword "FILES") then return Phrase.empty
  expectSymbol "="
  let files ← parens (separatedWith false [] (quotedString "file token"))
  return Phrase.word ("FILES = ('" ++ "', '".intercalate files ++ "')")

/-- COPY INTO after its keywords. -/
def copyInto : Parser Phrase := do
  let target ← stageName
  expectKeyword "FROM"
  let source ← if ← symbol "(" then do
      expectKeyword "SELECT"
      let columns := Phrase.list (← separatedWith false [] loadedColumn)
      expectKeyword "FROM"
      let source ← stageSource
      expectSymbol ")"
      pure (Phrase.words ["SELECT", columns, "FROM", source]).parens
    else stageSource
  let files ← stagedFiles
  let pattern ← if ← keyword "PATTERN" then do
      expectSymbol "="
      pure (Phrase.word ("PATTERN = '" ++ (← quotedString "pattern") ++ "'"))
    else pure Phrase.empty
  let format ← stageOptions "FILE_FORMAT"
  let options ← stageOptions "COPY_OPTIONS"
  let mode ← if ← keyword "VALIDATION_MODE" then do
      expectSymbol "="
      pure (Phrase.words ["VALIDATION_MODE =", ← tokenText])
    else pure Phrase.empty
  return Phrase.words ["COPY INTO", target, "FROM", source, files, pattern, format, options, mode]

/-- LIST or REMOVE, by its verb. -/
def stagedFilesCommand (verb : String) : Parser Phrase := do
  let name ← stageName
  return Phrase.words [verb, name, ← stageSetting "PATTERN" rawLiteral]

end SqlLineage.Sql.Parser
