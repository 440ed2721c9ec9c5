import SqlLineage.Sql.Parser.Operator

/-! Patterns over the rows of a table: symbols that stand for rows, how often they may be repeated,
and what each of them asks of a row. -/

namespace SqlLineage.Sql.Parser

variable [Nesting]

/-- How often a part of a pattern may be repeated, after the opening brace. -/
def repetitionRange : Parser String := do
  let first ← next
  let place := placeText first
  let count (digits : String) : Parser String := return toString (← countOf 32 digits place)
  let braced (inside : String) : String := "\x7b" ++ inside ++ "\x7d"
  match tokenOf first with
  | some (.symbol ",") =>
    let found ← next
    match tokenOf found with
    | some (.number most _) =>
      expectSymbol "\x7d"
      return braced ("," ++ (← count most))
    | _ => expected "literal number" found
  | some (.number least _) =>
    if !(← symbol ",") then
      expectSymbol "\x7d"
      return braced (← count least)
    let found ← next
    match tokenOf found with
    | some (.number most _) =>
      expectSymbol "\x7d"
      let least ← count least
      return braced (least ++ "," ++ (← count most))
    | some (.symbol "\x7d") => return braced ((← count least) ++ ",")
    | _ => expected "\x7d or upper bound" found
  | _ => expected "quantifier range" first

/-- The marks of repetition after a part of a pattern. -/
def repetitions : Parser String := do
  let marks ← many do
    if ← symbol "*" then return some "*"
    if ← symbol "+" then return some "+"
    if ← symbol "\x7b" then return some (← repetitionRange)
    match ← peekToken with
    | some (.placeholder "?") =>
      let _ ← next
      return some "?"
    | _ => return none
  return String.join marks

/-- Parts one after the other, up to a parenthesis or a bar. -/
def patternParts (part : Parser String) : Parser String := do
  let first ← part
  let parts ← loop [first] fun parts => do
    match ← peekToken with
    | some (.symbol ")") | some (.symbol "|") => return none
    | _ => return some ((← part) :: parts)
  return " ".intercalate parts.reverse

/-- Choices between parts; the tokens left bound how deep they are nested. -/
def rowPatternWithin : Stream → Parser String
  | [] => return (← identifier).render
  | _ :: bound => do
    let part : Parser String := do
      let start ← rest
      let base ← (show Parser String from do
        match tokenOf (← next) with
        | some (.symbol "^") => return "^"
        | some (.placeholder "$") => return "$"
        | some (.symbol "\x7b") =>
          expectSymbol "-"
          let excluded ← identifier
          expectSymbol "-"
          expectSymbol "\x7d"
          return "\x7b- " ++ excluded.render ++ " -\x7d"
        | some (.word "PERMUTE" _ none) =>
          return "PERMUTE" ++ (← parens (listOf identPhrase)).parens.text
        | some (.symbol "(") =>
          let inside ← rowPatternWithin bound
          expectSymbol ")"
          return "( " ++ inside ++ " )"
        | _ =>
          resume start
          return (← identifier).render)
      return base ++ (← repetitions)
    let first ← patternParts part
    let choices ← loop [first] fun choices => do
      if ← symbol "|" then return some ((← patternParts part) :: choices) else return none
    return " | ".intercalate choices.reverse

def rowPattern : Parser String := do rowPatternWithin (← rest)

/-- Which rows of a match are kept. -/
def rowsPerMatch : Parser Phrase := do
  if ← keywordRun ["ONE", "ROW", "PER", "MATCH"] then return "ONE ROW PER MATCH"
  if !(← keywordRun ["ALL", "ROWS", "PER", "MATCH"]) then return Phrase.empty
  return Phrase.words ["ALL ROWS PER MATCH", ← firstRun [["SHOW", "EMPTY", "MATCHES"],
    ["OMIT", "EMPTY", "MATCHES"], ["WITH", "UNMATCHED", "ROWS"]]]

/-- Where the search goes on after a match. -/
def afterMatch : Parser Phrase := do
  if !(← keywordRun ["AFTER", "MATCH", "SKIP"]) then return Phrase.empty
  if ← keywordRun ["PAST", "LAST", "ROW"] then return "AFTER MATCH SKIP PAST LAST ROW"
  if ← keywordRun ["TO", "NEXT", "ROW"] then return "AFTER MATCH SKIP  TO NEXT ROW"
  for side in ["FIRST", "LAST"] do
    if ← keywordRun ["TO", side] then
      return Phrase.words ["AFTER MATCH SKIP TO", side, ← identPhrase]
  expected "after match skip option" (← next)

/-- The search for a pattern in a table, after its keyword. -/
def patternSearch : Parser Phrase := do
  expectSymbol "("
  let partition ← after ["PARTITION", "BY"] exprs
  let order ← orderBy
  let measures ← after ["MEASURES"] (listOf do
    let e ← expr
    let _ ← keyword "AS"
    return Phrase.words [e, "AS", ← identPhrase])
  let kept ← rowsPerMatch
  let skipped ← afterMatch
  expectKeyword "PATTERN"
  let pattern ← parens rowPattern
  expectKeyword "DEFINE"
  let symbols ← listOf do
    let name ← identPhrase
    expectKeyword "AS"
    return Phrase.words [name, "AS", ← expr]
  expectSymbol ")"
  return (Phrase.words [partition, order, measures, kept, skipped, "PATTERN",
    Phrase.parens pattern, "DEFINE", symbols]).parens

end SqlLineage.Sql.Parser
