import SqlLineage.Sql.Parser.Routine

/-! What a database does by itself with the rows of a table: policies that limit them and triggers
that follow their changes. -/

namespace SqlLineage.Sql.Parser

variable [Nesting]

/-! ### Policies -/

/-- Somebody who owns objects or to whom a policy applies. -/
def owner : Parser Phrase := do
  if let some k ← oneOf ["CURRENT_USER", "CURRENT_ROLE", "SESSION_USER"] then return k
  match ← survive identPhrase with
  | .ok name => return name
  | .error error =>
    fail (.unexpected
      ("Expected: CURRENT_USER, CURRENT_ROLE, SESSION_USER or identifier after OWNER TO. " ++
        error.render))

/-- To whom a policy applies, which rows are seen and which may be written. -/
def policyScope : Parser Phrase := do
  let owners ← after ["TO"] (listOf owner)
  let rows ← after ["USING"] (return (← parens expr).parens)
  return Phrase.words [owners, rows, ← after ["WITH", "CHECK"] (return (← parens expr).parens)]

/-- CREATE POLICY after the keyword POLICY. -/
def createPolicy : Parser Phrase := do
  let name ← identPhrase
  expectKeyword "ON"
  let table ← namePhrase
  let sort ← after ["AS"] (return Phrase.word (← expectOneOf ["PERMISSIVE", "RESTRICTIVE"]))
  let verb ← after ["FOR"]
    (return Phrase.word (← expectOneOf ["ALL", "SELECT", "INSERT", "UPDATE", "DELETE"]))
  return Phrase.words ["CREATE POLICY", name, "ON", table, sort, verb, ← policyScope]

/-- ALTER POLICY after the keyword POLICY. -/
def alterPolicy : Parser Phrase := do
  let name ← identPhrase
  expectKeyword "ON"
  let table ← namePhrase
  let change ← if ← keyword "RENAME" then do
      expectKeyword "TO"
      pure (Phrase.words ["RENAME TO", ← identPhrase])
    else policyScope
  return Phrase.words ["ALTER POLICY", name, "ON", table, change]

/-! ### Triggers -/

def triggerEvent : Parser Phrase := do
  let verb ← expectOneOf ["INSERT", "UPDATE", "DELETE", "TRUNCATE"]
  if ← given (verb == "UPDATE") (keyword "OF") then
    return Phrase.words ["UPDATE OF", ← listOf identPhrase]
  return verb

/-- The rows before or after a change under a name. -/
def transitionTable : Parser (Option Phrase) := do
  match ← oneOf ["OLD", "NEW"] with
  | none => return none
  | some side =>
    if !(← keyword "TABLE") then return none
    let as ← flag ["AS"]
    return some (Phrase.words [side, "TABLE", as, ← namePhrase])

/-- CREATE TRIGGER after the keyword TRIGGER. -/
def createTrigger (m : CreateModifiers) (constraint : String) : Parser Phrase := do
  let name ← namePhrase
  let time ← expectOneOf ["BEFORE", "AFTER", "INSTEAD"]
  if time == "INSTEAD" then expectKeyword "OF"
  let first ← triggerEvent
  let events ← loop [first] fun events => do
    if ← keyword "OR" then return some ((← triggerEvent) :: events) else return none
  expectKeyword "ON"
  let table ← namePhrase
  let referred ← if ← keyword "FROM" then do
      let name ← tolerate (objectNameIn true)
      pure ((name.map fun n => Phrase.words ["FROM", n.render]).getD Phrase.empty)
    else pure Phrase.empty
  let checked ← characteristics
  let transitions ← if ← keyword "REFERENCING" then many transitionTable else pure []
  let referencing := if transitions.isEmpty then Phrase.empty
    else Phrase.words ["REFERENCING", Phrase.words transitions]
  expectKeyword "FOR"
  let each ← flag ["EACH"]
  let unit ← expectOneOf ["ROW", "STATEMENT"]
  let condition ← after ["WHEN"] expr
  expectKeyword "EXECUTE"
  let kind ← expectOneOf ["FUNCTION", "PROCEDURE"]
  return Phrase.words ["CREATE", m.replaceText, constraint, "TRIGGER", name,
    if time == "INSTEAD" then "INSTEAD OF" else time, Phrase.joined " OR " events.reverse, "ON",
    table, referred, checked, referencing, "FOR", each, unit, condition, "EXECUTE", kind,
    ← functionSignature]

end SqlLineage.Sql.Parser
