import SqlLineage.Sql.Parser.Operand

/-! Operators: what follows an operand as long as it binds strongly enough. -/

namespace SqlLineage.Sql.Parser

variable [Nesting]

/-- How a symbol is written between two operands; nothing if the dialect has no such operator. -/
def binarySymbol? (d : Dialect) (s : String) : Option String :=
  if s == "==" then some "="
  else if ["<=>", "=", "<>", ">", ">=", "<", "<=", "+", "-", "*", "%", "||", "|", "^", "&", "/",
      "~", "~*", "!~", "!~*", "~~", "~~*", "!~~", "!~~*"].contains s || documentOperators.contains s
  then some s
  else if s == "//" && (d == .duckdb || d == .generic) then some s
  else if (s == "<<" || s == ">>") && d.shiftOperators then some s
  else if s == "#" && (d == .postgres || d == .redshift) then some s
  else if s == "&&" && (d == .postgres || d == .redshift || d == .generic) then some s
  else if s == "^@" && (d == .postgres || d == .generic) then some s
  else none

/-- The name of an operator in parentheses after its keyword. -/
def namedOperator : Parser String := do
  expectSymbol "("
  let spelling (l : Option Lexeme) : String := match l with
    | some l => l.token.render
    | none => "EOF"
  let first ← next
  let parts ← loop [spelling first] fun parts => do
    if ← symbol "." then return some (spelling (← next) :: parts) else return none
  expectSymbol ")"
  return "OPERATOR(" ++ ".".intercalate parts.reverse ++ ")"

/-- The operator that the token just read is, if it stands between two operands. -/
def binaryOperator? (t : Option Token) : Parser (Option String) := do
  let d ← dialect
  match t with
  | some (.symbol s) => return binarySymbol? d s
  | some (.customOperator s) => return some s
  | some (.word _ k _) =>
    if ["AND", "OR", "XOR", "OVERLAPS"].contains k then return some k
    if k == "OPERATOR" && (d == .postgres || d == .generic) then return some (← namedOperator)
    return none
  | _ => return none

/-- The right side of a comparison with all or some of the rows of a query or items of an array. -/
def quantified (left : Phrase) (op : String) (precedence : Nat) (place : String) (k : String) :
    Parser Phrase := do
  let start ← rest
  expectSymbol "("
  let right ←
    if ← atQuery then do
      resume start
      Nesting.subexpr precedence
    else do
      let right ← Nesting.subexpr precedence
      expectSymbol ")"
      pure right
  if !comparisons.contains op then
    fail (.unexpected ("Expected one of [=, >, <, =>, =<, !=] as comparison operator, found: " ++
      op ++ place))
  let right := if right.isSubquery then right.phrase else right.phrase.parens
  return Phrase.words [left, op, Phrase.word k ++ right]

def binary (left : Expr) (op : String) (precedence : Nat) (place : String) : Parser Expr := do
  match ← oneOf ["ANY", "ALL", "SOME"] with
  | some k => return ← quantified left.phrase op precedence place k
  | none =>
    let right ← subexpr precedence
    let equation := match op, left.path with
      | "=", [i] => some (i, right)
      | _, _ => none
    return { phrase := Phrase.words [left.phrase, op, right], equation := equation }

/-- What follows IS. -/
def isForm (left : Phrase) : Parser Phrase := do
  for ks in [["NULL"], ["NOT", "NULL"], ["TRUE"], ["NOT", "TRUE"], ["FALSE"], ["NOT", "FALSE"],
      ["UNKNOWN"], ["NOT", "UNKNOWN"]] do
    if ← keywordRun ks then return Phrase.words [left, "IS", " ".intercalate ks]
  if ← keywordRun ["DISTINCT", "FROM"] then
    return Phrase.words [left, "IS DISTINCT FROM", ← expr]
  if ← keywordRun ["NOT", "DISTINCT", "FROM"] then
    return Phrase.words [left, "IS NOT DISTINCT FROM", ← expr]
  let negation ← flag ["NOT"]
  let form ← match ← oneOf ["NFC", "NFD", "NFKC", "NFKD"] with
    | some k => pure (Phrase.word k)
    | none => pure Phrase.empty
  if ← keyword "NORMALIZED" then
    return Phrase.words [left, "IS", negation, form, "NORMALIZED"]
  expectedNext "[NOT] NULL | TRUE | FALSE | DISTINCT | [form] NORMALIZED FROM after IS"

/-- What follows IN. -/
def inForm (left negation : Phrase) : Parser Phrase := do
  if ← keyword "UNNEST" then
    let array ← parens expr
    return Phrase.words [left, negation, "IN", Phrase.word "UNNEST" ++ array.parens]
  expectSymbol "("
  let inside ←
    if ← atQuery then queryPhrase
    else if (← dialect).emptyInList then Phrase.list <$> commaSeparated0 expr ")"
    else exprs
  expectSymbol ")"
  return Phrase.words [left, negation, "IN", inside.parens]

/-- A pattern after its keyword, and the escape character that it may name. -/
def patternForm (left negation : Phrase) (name : String) (anyAllowed : Bool) : Parser Phrase := do
  let p ← precedences
  let any ← if anyAllowed then flag ["ANY"] else pure Phrase.empty
  let pattern ← subexpr p.like
  let escape ← after ["ESCAPE"] rawLiteral
  return Phrase.words [left, negation, name, any, pattern, escape]

/-- A predicate that NOT may stand before. -/
def negatable (left : Phrase) : Parser Phrase := do
  let p ← precedences
  let negation ← flag ["NOT"]
  let regexp ← keyword "REGEXP"
  let rlike ← keyword "RLIKE"
  if regexp || rlike then
    return Phrase.words [left, negation, if regexp then "REGEXP" else "RLIKE", ← subexpr p.like]
  if ← keyword "IN" then return ← inForm left negation
  if ← keyword "BETWEEN" then
    let low ← subexpr p.between
    expectKeyword "AND"
    return Phrase.words [left, negation, "BETWEEN", low, "AND", ← subexpr p.between]
  if ← keyword "LIKE" then return ← patternForm left negation "LIKE" true
  if ← keyword "ILIKE" then return ← patternForm left negation "ILIKE" true
  if ← keywordRun ["SIMILAR", "TO"] then return ← patternForm left negation "SIMILAR TO" false
  expectedNext "IN or BETWEEN after NOT"

/-- How a message names a token that the dialect has no operator for. -/
def tokenClass : Option Token → String
  | some (.symbol "#") => "Sharp"
  | some (.symbol "<<") => "ShiftLeft"
  | some (.symbol ">>") => "ShiftRight"
  | some (.symbol "&&") => "Overlap"
  | some (.symbol "^@") => "CaretAt"
  | some (.symbol "//") => "DuckIntDiv"
  | some (.symbol "!") => "ExclamationMark"
  | some (.word value k quote) =>
    let style := match quote with
      | some q => "Some('" ++ q.toString ++ "')"
      | none => "None"
    "Word(Word \x7b value: \"" ++ value ++ "\", quote_style: " ++ style ++ ", keyword: " ++ k ++
      " \x7d)"
  | _ => ""

/-- The operator that comes next and its right side. -/
def operation (left : Expr) (precedence : Nat) : Parser Expr := do
  let d ← dialect
  if ← given (d == .mysql) (keyword "DIV") then
    return Phrase.words [left.phrase, "DIV", ← expr]
  if ← given (d == .sqlite) (keyword "REGEXP") then
    return Phrase.words [left.phrase, "REGEXP", ← expr]
  let start ← rest
  let found ← next
  let t := tokenOf found
  let place := placeText found
  if let some op ← binaryOperator? t then return ← binary left op precedence place
  let missing {α : Type} : Parser α :=
    fail (.unexpected ("No infix parser for token " ++ tokenClass t ++ place))
  match t with
  | some (.word _ k _) =>
    if k == "IS" then return ← isForm left.phrase
    if k == "AT" then
      expectKeywords ["TIME", "ZONE"]
      return Phrase.words [left.phrase, "AT TIME ZONE", ← subexpr precedence]
    if ["NOT", "IN", "BETWEEN"].contains k || patternWords.contains k then
      resume start
      return ← negatable left.phrase
    missing
  | some (.symbol "::") => return left.phrase ++ Phrase.word "::" ++ (← typePhrase)
  | some (.symbol "!") =>
    if d == .postgres then return (left.phrase ++ Phrase.word "!" : Phrase) else missing
  | some (.symbol "[") =>
    resume start
    if d.subscripts then return ← fieldsOf interval (left.phrase ++ (← subscripts) : Phrase)
    if d.documentPaths then return left.phrase ++ (← documentPath)
    fail (.unexpected ("Array subscripting is not supported" ++ place))
  | some (.symbol ":") =>
    if d == .snowflake || d == .generic then
      resume start
      return left.phrase ++ (← documentPath)
    missing
  | _ => missing

/-- An expression that binds at least as strongly as `precedence` asks. -/
@[nospecialize] def expression (precedence : Nat) : Parser Expr := do
  let first ← operand
  loop first fun e => do
    let following ← nextPrecedence
    if following ≤ precedence || (← peekSymbol ".") then return none
    return some (← operation e following)

end SqlLineage.Sql.Parser
