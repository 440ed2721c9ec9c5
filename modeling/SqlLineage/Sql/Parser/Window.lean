import SqlLineage.Sql.Parser.Nesting

/-! Sort keys and windows. -/

namespace SqlLineage.Sql.Parser

variable [Nesting]

/-- ASC or DESC, or nothing. -/
def direction : Parser Phrase := do
  match ← oneOf ["ASC", "DESC"] with
  | some k => return k
  | none => return Phrase.empty

def nullsOrder : Parser Phrase := do
  if ← keywordRun ["NULLS", "FIRST"] then return "NULLS FIRST"
  flag ["NULLS", "LAST"]

/-- How gaps between sort keys are filled. -/
def fill : Parser Phrase := do
  if !(← given ((← dialect) == .generic) (keywordRun ["WITH", "FILL"])) then return Phrase.empty
  let start ← after ["FROM"] expr
  let stop ← after ["TO"] expr
  let step ← after ["STEP"] expr
  return Phrase.words ["WITH FILL", start, stop, step]

def sortKey : Parser Phrase := do
  let key ← expr
  let order ← direction
  let nulls ← nullsOrder
  return Phrase.words [key, order, nulls, ← fill]

def orderBy : Parser Phrase := after ["ORDER", "BY"] (listOf sortKey)

/-- RESPECT NULLS or IGNORE NULLS, or nothing. -/
def nullTreatment : Parser Phrase := do
  match ← oneOf ["RESPECT", "IGNORE"] with
  | some k =>
    expectKeyword "NULLS"
    return k ++ " NULLS"
  | none => return Phrase.empty

/-- One end of a window frame; `interval` reads a length of time after its keyword. -/
def frameBound (interval : Parser Phrase) : Parser Phrase := do
  if ← keywordRun ["CURRENT", "ROW"] then return "CURRENT ROW"
  let distance ←
    if ← keyword "UNBOUNDED" then pure (Phrase.word "UNBOUNDED")
    else match ← peekToken with
      | some (.text .single _) => interval
      | _ => expr
  match ← oneOf ["PRECEDING", "FOLLOWING"] with
  | some k => return distance.beside k
  | none => expectedNext "PRECEDING or FOLLOWING"

def windowFrame (interval : Parser Phrase) : Parser Phrase := do
  match ← oneOf ["ROWS", "RANGE", "GROUPS"] with
  | none => expectedNext "ROWS, RANGE, GROUPS"
  | some units =>
    if ← keyword "BETWEEN" then
      let first ← frameBound interval
      expectKeyword "AND"
      return Phrase.words [units, "BETWEEN", first, "AND", ← frameBound interval]
    return Phrase.words [units, ← frameBound interval]

/-- A window after its opening parenthesis. -/
def windowSpec (interval : Parser Phrase) : Parser Phrase := do
  let base ← match ← peekToken with
    | some t => if isPlainWord t then identPhrase else pure Phrase.empty
    | none => pure Phrase.empty
  let partition ← after ["PARTITION", "BY"] exprs
  let order ← orderBy
  let frame ←
    if ← symbol ")" then pure Phrase.empty
    else do
      let frame ← windowFrame interval
      expectSymbol ")"
      pure frame
  return (Phrase.words [base, partition, order, frame]).parens

end SqlLineage.Sql.Parser
