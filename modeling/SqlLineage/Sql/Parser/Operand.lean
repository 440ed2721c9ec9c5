import SqlLineage.Sql.Parser.Access
import SqlLineage.Sql.Parser.DataType
import SqlLineage.Sql.Parser.Precedence

/-! Operands: what stands between operators. A word that opens a special form is read as that form;
if the form is malformed the word may still name a column or a function. -/

namespace SqlLineage.Sql.Parser

variable [Nesting]

/-! ### Dates and times -/

def intervalUnits : List String :=
  ["YEAR", "YEARS", "MONTH", "MONTHS", "WEEK", "WEEKS", "DAY", "DAYS", "HOUR", "HOURS", "MINUTE",
    "MINUTES", "SECOND", "SECONDS", "CENTURY", "DECADE", "DOW", "DOY", "EPOCH", "ISODOW",
    "ISOYEAR", "JULIAN", "MICROSECOND", "MICROSECONDS", "MILLENIUM", "MILLENNIUM", "MILLISECOND",
    "MILLISECONDS", "NANOSECOND", "NANOSECONDS", "QUARTER", "TIMEZONE", "TIMEZONE_HOUR",
    "TIMEZONE_MINUTE"]

def timeFields : List String :=
  intervalUnits ++ ["DATE", "DATETIME", "DAYOFWEEK", "DAYOFYEAR", "ISOWEEK", "TIME",
    "TIMEZONE_ABBR", "TIMEZONE_REGION"]

/-- A part of a date or time. -/
def timeField : Parser String := do
  let d ← dialect
  let found ← next
  match tokenOf found with
  | some (.word value k quote) =>
    if ← given (k == "WEEK" && (d == .bigquery || d == .generic)) (symbol "(") then
      let day ← identifier
      expectSymbol ")"
      return "WEEK(" ++ day.render ++ ")"
    if timeFields.contains k then return k
    if d.customExtractField then return Ident.render ⟨value, quote⟩
    expected "date/time field" found
  | some (.text .single value) =>
    if d.customExtractField then return Ident.render ⟨value, some '\''⟩
    expected "date/time field" found
  | _ => expected "date/time field" found

def parenthesizedCount : Parser Phrase := do
  if !(← symbol "(") then return Phrase.empty
  let n ← countPhrase
  expectSymbol ")"
  return n.parens

/-- The precision of seconds: whole digits and digits of the fraction. -/
def secondsPrecision : Parser Phrase := do
  if !(← symbol "(") then return Phrase.empty
  let n ← countPhrase
  let fraction ← if ← symbol "," then pure (Phrase.word ", " ++ (← countPhrase))
    else pure Phrase.empty
  expectSymbol ")"
  return (n ++ fraction).parens

/-- An interval after its keyword; `operand` reads its value where no unit has to follow. -/
def intervalWith (operand : Parser Expr) : Parser Phrase := do
  let needsUnit ← choice (·.intervalNeedsUnit)
  let length ← if needsUnit then expr else Expr.phrase <$> operand
  let k ← nextKeyword
  if !intervalUnits.contains k then
    if needsUnit then
      fail (.unexpected ("INTERVAL requires a unit after the literal value" ++ placeText (← peek)))
    let precision ← parenthesizedCount
    let last ← if ← keyword "TO" then some <$> timeField else pure none
    return Phrase.words ["INTERVAL", length, precision, ← upTo last]
  let unit ← timeField
  if unit == "SECOND" then
    return Phrase.words ["INTERVAL", length, unit, ← secondsPrecision]
  let precision ← parenthesizedCount
  let last ← if ← keyword "TO" then some <$> timeField else pure none
  return Phrase.words ["INTERVAL", length, unit, precision, ← upTo last]
where
  upTo (last : Option String) : Parser Phrase := do
    match last with
    | none => return Phrase.empty
    | some unit =>
      let precision ← if unit == "SECOND" then parenthesizedCount else pure Phrase.empty
      return Phrase.words ["TO", unit, precision]

/-! ### Special forms -/

def caseForm : Parser Phrase := do
  let operand ← if ← keyword "WHEN" then pure Phrase.empty
    else do
      let operand ← expr
      expectKeyword "WHEN"
      pure operand
  let branch : Parser (Phrase × Phrase) := do
    let condition ← expr
    expectKeyword "THEN"
    return (condition, ← expr)
  let first ← branch
  let others ← many do
    if ← keyword "WHEN" then return some (← branch) else return none
  let branches := first :: others
  let otherwise ← after ["ELSE"] expr
  expectKeyword "END"
  let shown := branches.map fun (condition, result) =>
    Phrase.words ["WHEN", condition, "THEN", result]
  return (Phrase.words ["CASE", operand, Phrase.words shown, otherwise, "END"]).mentioning
    ([operand] ++ branches.map Prod.fst ++ branches.map Prod.snd ++ [otherwise])

def castForm (name : String) : Parser Phrase := do
  expectSymbol "("
  let operand ← expr
  expectKeyword "AS"
  let type ← typePhrase
  let format ←
    if ← keyword "FORMAT" then do
      let format ← value
      let zone ← after ["AT", "TIME", "ZONE"] value
      pure (Phrase.words ["FORMAT", format, zone])
    else pure Phrase.empty
  expectSymbol ")"
  return Phrase.word name ++ (Phrase.words [operand, "AS", type, format]).parens

def convertForm (name : String) : Parser Phrase := do
  expectSymbol "("
  let inside ← (show Parser Phrase from do
    if (← dialect).convertsTypeFirst then
      let type ← typePhrase
      expectSymbol ","
      let operand ← expr
      let styles ← if ← symbol "," then commaSeparated expr else pure []
      return Phrase.list ([type, operand] ++ styles)
    let operand ← expr
    if ← keyword "USING" then return Phrase.words [operand, "USING", ← namePhrase]
    expectSymbol ","
    let type ← typePhrase
    return Phrase.words [operand ++ Phrase.word ",", type,
      ← after ["CHARACTER", "SET"] namePhrase])
  expectSymbol ")"
  return Phrase.word name ++ inside.parens

def existsForm (name : String) : Parser Phrase := do
  let subquery ← parens queryPhrase
  return Phrase.words [name, subquery.parens]

def extractForm : Parser Phrase := do
  expectSymbol "("
  let field ← timeField
  let d ← dialect
  let joint ← (show Parser String from do
    if ← keyword "FROM" then return " FROM "
    if (← symbol ",") && (d == .snowflake || d == .generic) then return ", "
    fail (.unexpected "Expected 'FROM' or ','"))
  let operand ← expr
  expectSymbol ")"
  return Phrase.word ("EXTRACT(" ++ field ++ joint) ++ operand ++ Phrase.word ")"

def roundingForm (name : String) : Parser Phrase := do
  expectSymbol "("
  let operand ← expr
  let scale ← (show Parser Phrase from do
    if ← keyword "TO" then return " TO " ++ (← timeField)
    if ← symbol "," then
      let found ← peekToken
      let scale ← value
      match found with
      | some (.number ..) => return Phrase.word ", " ++ scale
      | _ => fail (.unexpected "Scale field can only be of number type")
    return Phrase.empty)
  expectSymbol ")"
  return Phrase.word name ++ (operand ++ scale).parens

/-- The position of a text in another, or an ordinary call of a function of that name. -/
def positionForm (interval : Parser Phrase) (name : Ident) : Parser Phrase := do
  let p ← precedences
  let form ← attempt do
    expectSymbol "("
    let sought ← subexpr p.between
    expectKeyword "IN"
    let text ← expr
    expectSymbol ")"
    return Phrase.word "POSITION" ++ (Phrase.words [sought, "IN", text]).parens
  match form with
  | some form => return form
  | none => call interval name.render

def substringForm : Parser Phrase := do
  expectSymbol "("
  let text ← expr
  let commas ← symbol ","
  let start ← if commas then some <$> expr
    else do if ← keyword "FROM" then some <$> expr else pure none
  let length ← if ← keyword "FOR" then some <$> expr
    else do if ← symbol "," then some <$> expr else pure none
  expectSymbol ")"
  let part (joint : String) (p : Option Phrase) : Phrase := match p with
    | none => Phrase.empty
    | some p => Phrase.word (if commas then ", " else joint) ++ p
  return Phrase.word "SUBSTRING" ++ (text ++ part " FROM " start ++ part " FOR " length).parens

def overlayForm : Parser Phrase := do
  expectSymbol "("
  let text ← expr
  expectKeyword "PLACING"
  let what ← expr
  expectKeyword "FROM"
  let start ← expr
  let length ← after ["FOR"] expr
  expectSymbol ")"
  return Phrase.word "OVERLAY" ++
    (Phrase.words [text, "PLACING", what, "FROM", start, length]).parens

def trimForm : Parser Phrase := do
  let d ← dialect
  expectSymbol "("
  let side ← match ← oneOf ["BOTH", "LEADING", "TRAILING"] with
    | some k => pure (Phrase.word k)
    | none => pure Phrase.empty
  let first ← expr
  if ← keyword "FROM" then
    let text ← expr
    expectSymbol ")"
    return (Phrase.word "TRIM" ++ (Phrase.words [side, first, "FROM", text]).parens).mentioning
      [text, first]
  if (← symbol ",") && (d == .snowflake || d == .bigquery || d == .generic) then
    let characters ← exprs
    expectSymbol ")"
    return Phrase.word "TRIM" ++ (Phrase.list [first, characters]).parens
  expectSymbol ")"
  return Phrase.word "TRIM" ++ (Phrase.words [side, first]).parens

def matchForm : Parser Phrase := do
  let columns ← requiredColumns
  expectKeyword "AGAINST"
  expectSymbol "("
  let sought ← value
  let mode ← (show Parser Phrase from do
    if ← keywordRun ["IN", "NATURAL", "LANGUAGE", "MODE"] then
      if ← keywordRun ["WITH", "QUERY", "EXPANSION"] then
        return "IN NATURAL LANGUAGE MODE WITH QUERY EXPANSION"
      return "IN NATURAL LANGUAGE MODE"
    if ← keywordRun ["IN", "BOOLEAN", "MODE"] then return "IN BOOLEAN MODE"
    flag ["WITH", "QUERY", "EXPANSION"])
  expectSymbol ")"
  return Phrase.words
    ["MATCH", (identList columns).parens, "AGAINST", (Phrase.words [sought, mode]).parens]

/-- The items of an array after its opening bracket. -/
def arrayItems : Parser Phrase := do
  let items ← commaSeparated0 expr "]"
  expectSymbol "]"
  return Phrase.word "[" ++ Phrase.list items ++ Phrase.word "]"

/-- A structure: its type if one is given, then its values and what reaches into it. -/
def structForm (interval : Parser Phrase) (start : Stream) : Parser Expr := do
  resume start
  let (type, closed) ← structType (dataTypeWithin start)
  if closed then
    fail (.unexpected ("unmatched > in STRUCT literal" ++ placeText (← peek)))
  let typed := type != "STRUCT"
  let field : Parser Phrase := do
    let e ← expr
    let joint ← peek
    if !(← keyword "AS") then return e
    if typed then fail (.unexpected ("Typed syntax does not allow AS" ++ placeText joint))
    return Phrase.words [e, "AS", ← identPhrase]
  let values ← parens (listOf field)
  fieldsOf interval (Phrase.word type ++ values.parens : Phrase)

/-- The fields of a literal in braces, each a key and its value. -/
def bracedFields (emptyAllowed : Bool) (key : Parser Phrase) : Parser Phrase := do
  expectSymbol "\x7b"
  let field : Parser Phrase := do
    let key ← key
    expectSymbol ":"
    return key ++ Phrase.word ": " ++ (← expr)
  let fields ← if emptyAllowed then commaSeparated0 field "\x7d" else commaSeparated field
  expectSymbol "\x7d"
  return Phrase.word "\x7b" ++ Phrase.list fields ++ Phrase.word "\x7d"

/-- A literal in braces, or a call between them. -/
def bracedForm (interval : Parser Phrase) (start : Stream) : Parser Phrase := do
  let opening ← next
  let called ← attempt do
    expectKeyword "FN"
    let name ← objectName
    call interval name.render
  match called with
  | some called =>
    expectSymbol "\x7d"
    return Phrase.word "\x7bfn " ++ called ++ Phrase.word "\x7d"
  | none =>
    if (← dialect).dictionaries then
      resume start
      return ← bracedFields false identPhrase
    expected "an expression" opening

def lambda (parameters : Phrase) : Parser Phrase :=
  return Phrase.words [parameters, "->", ← expr]

/-- A lambda with several parameters, after the opening parenthesis. -/
def lambdaInParens : Parser (Option Phrase) := do
  if !(← dialect).lambdas then return none
  attempt do
    let parameters ← listOf identPhrase
    expectSymbol ")"
    expectSymbol "->"
    lambda parameters.parens

/-- The form that a keyword opens, if it opens one; `start` is where the keyword stands. -/
def specialForm (interval : Parser Phrase) (start : Stream) (name : Ident) (k : String) :
    Parser (Option Expr) := do
  let d ← dialect
  let form (p : Parser Phrase) : Parser (Option Expr) := return some (← p)
  let literal : Parser (Option Expr) := do
    resume start
    form value
  match k with
  | "TRUE" | "FALSE" => if d.booleanLiterals then literal else return none
  | "NULL" => literal
  | "CURRENT_CATALOG" | "CURRENT_USER" | "SESSION_USER" | "USER" =>
    if d.catalogFunctions then form (return name.render) else return none
  | "CURRENT_TIMESTAMP" | "CURRENT_TIME" | "CURRENT_DATE" | "LOCALTIME" | "LOCALTIMESTAMP" =>
    if ← symbol "(" then
      form do return Phrase.word name.render ++ (← arguments).phrase.parens
    else form (return name.render)
  | "CASE" => form caseForm
  | "CONVERT" => form (convertForm k)
  | "TRY_CONVERT" => if d.tryConvert then form (convertForm k) else return none
  | "CAST" | "TRY_CAST" | "SAFE_CAST" => form (castForm k)
  | "EXISTS" =>
    let second ← peekNth 1
    if !d.existsIsFunction || isKeyword "SELECT" second || isKeyword "WITH" second then
      form (existsForm "EXISTS")
    else return none
  | "EXTRACT" => form extractForm
  | "CEIL" | "FLOOR" => form (roundingForm k)
  | "POSITION" => if ← peekSymbol "(" then form (positionForm interval name) else return none
  | "SUBSTRING" => form substringForm
  | "OVERLAY" => form overlayForm
  | "TRIM" => form trimForm
  | "INTERVAL" => form interval
  | "ARRAY" =>
    if ← symbol "[" then form do return Phrase.word "ARRAY" ++ (← arrayItems)
    else if ← given (!d.arrayIsFunction) (symbol "(") then
      form do
        let subquery ← queryPhrase
        expectSymbol ")"
        return Phrase.word name.render ++ subquery.parens
    else return none
  | "NOT" =>
    if ← keyword "EXISTS" then form (existsForm "NOT EXISTS")
    else
      let p ← precedences
      form do return Phrase.words ["NOT", ← subexpr p.not]
  | "MATCH" => if d.matchAgainst then form matchForm else return none
  | "STRUCT" => if d.structLiterals then some <$> structForm interval start else return none
  | "PRIOR" =>
    if ← isHierarchical then
      let p ← precedences
      form do return Phrase.words ["PRIOR", ← subexpr p.plus]
    else return none
  | "MAP" =>
    if d.mapLiterals && (← peekSymbol "\x7b") then
      form do return Phrase.words ["MAP", ← bracedFields true expr]
    else return none
  | _ => return none

/-- A word that names a column or a function. -/
def namedOperand (interval : Parser Phrase) (name : Ident) : Parser Expr := do
  let d ← dialect
  let column := Expr.column [name]
  match ← peekToken with
  | some (.symbol ".") => fieldsOf interval column
  | some (.symbol "(") =>
    if ← outerJoinMark then return (column.phrase ++ Phrase.word " (+)" : Phrase)
    let called ← call interval name.render
    fieldsOf interval (← withMethods interval called)
  | some (.symbol "[") =>
    if !d.subscripts then return column
    fieldsOf interval (column.phrase ++ (← subscripts) : Phrase)
  | some (.symbol "->") =>
    if !d.lambdas then return column
    let _ ← next
    return ← lambda column.phrase
  | some (.text form _) =>
    if (form == .single || form == .double || form == .hex) &&
        name.value.toList.head? == some '_' then
      return Phrase.words [name.value, ← introducedValue]
    return column
  | _ => return column

/-- A word and what belongs to it; true if it is a name although it could have opened a form. -/
def wordOperand (interval : Parser Phrase) (start : Stream) (name : Ident) (k : String) :
    Parser (Expr × Bool) := do
  match ← outcome (specialForm interval start name k) with
  | .ok (some e) => return (e, false)
  | .ok none => return (← namedOperand interval name, false)
  | .error error =>
    let reserved := notColumnName.contains k && !((← dialect) == .snowflake && k == "INTERVAL")
    if !reserved then
      if let .ok e ← outcome (namedOperand interval name) then return (e, true)
    fail error

/-- What an opening parenthesis begins. -/
def parenthesizedOperand (interval : Parser Phrase) : Parser Expr := do
  let close (e : Expr) : Parser Expr := do
    expectSymbol ")"
    let e ← withMethods interval e
    if !(← symbol ".") then return e
    let found ← next
    match tokenOf found with
    | some (.word value _ quote) =>
      return (e.phrase ++ Phrase.word ("." ++ Ident.render ⟨value, quote⟩) : Phrase)
    | _ => fail (.unexpected ("Expected identifier, found: " ++ foundText found))
  if ← atQuery then
    close { phrase := (← queryPhrase).parens, isSubquery := true }
  else match ← lambdaInParens with
    | some e => return e
    | none => close (← exprs).parens

/-- A literal of a type that is named before it. -/
def typedLiteral (interval : Parser Phrase) : Parser Phrase := do
  let type ← dataType
  match type.form with
  | .interval => interval
  | .custom => fail (.unexpected "a type that introduces no literal")
  | .known => return Phrase.words [type.text, ← quotedLiteral]

def signedOperand (sign : String) (precedence : Nat) : Parser Expr :=
  return (Phrase.word sign ++ (← subexpr precedence) : Phrase)

/-- An operand; the tokens left are its bound. -/
def operandWithin : Stream → Parser Expr
  | [] => expectedNext "an expression"
  | _ :: bound => do
    let interval := intervalWith (operandWithin bound)
    if let some e ← attempt (typedLiteral interval) then return e
    let d ← dialect
    let p := Precedences.of d
    let start ← rest
    let found ← next
    let literal : Parser Expr := do
      resume start
      return ← value
    let finish (e : Expr) : Parser Expr := do
      let e ← withMethods interval e
      if ← keyword "COLLATE" then return Phrase.words [e.phrase, "COLLATE", ← namePhrase]
      return e
    match tokenOf found with
    | some (.word name k quote) =>
      let (e, complete) ← wordOperand interval start ⟨name, quote⟩ k
      if complete then return e else finish e
    | some (.number ..) | some (.dollarText ..) | some (.placeholder _) => finish (← literal)
    | some (.text form _) =>
      if form == .escaped && d != .postgres && d != .generic then expected "an expression" found
      finish (← literal)
    | some (.symbol s) =>
      if s == "[" then finish (← arrayItems)
      else if s == "-" || s == "+" then finish (← signedOperand s p.times)
      else if s == "!" && d.bangNot then finish (← signedOperand s p.not)
      else if d == .postgres && ["!!", "|/", "||/", "@", "~"].contains s then
        finish (← signedOperand s p.plus)
      else if s == "(" then finish (← parenthesizedOperand interval)
      else if s == ":" || s == "@" then finish (← literal)
      else if s == "\x7b" then
        resume start
        finish (← bracedForm interval start)
      else expected "an expression" found
    | _ => expected "an expression" found

def operand : Parser Expr := do operandWithin (← rest)

def interval : Parser Phrase := intervalWith operand

end SqlLineage.Sql.Parser
