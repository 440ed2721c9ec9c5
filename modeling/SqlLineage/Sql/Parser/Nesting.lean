import SqlLineage.Sql.Parser.Literal

/-! Nesting. Statements, queries and expressions stand inside each other; each one in progress takes
a level, and the grammar of a level reads what is nested through the level below it. -/

namespace SqlLineage.Sql

/-- An expression. -/
structure Expr where
  phrase : Phrase
  /-- The identifiers of a column name, dotted or not; empty for any other expression. -/
  path : List Ident := []
  /-- The sides of an equation whose left side is an identifier. -/
  equation : Option (Ident × Phrase) := none
  /-- A query in parentheses and nothing else. -/
  isSubquery : Bool := false

instance : Coe Phrase Expr := ⟨fun p => { phrase := p }⟩

def Expr.column (path : List Ident) : Expr :=
  { phrase := ObjectName.render path, path := path }

/-- What may be nested at the present level. The precedence given to `subexpr` binds the
expression to what stands before it. -/
class Nesting where
  statement : Parser Statement
  query : Parser Query
  subexpr : Nat → Parser Expr

namespace Parser

def statement [Nesting] : Parser Statement := Nesting.statement

def query [Nesting] : Parser Query := Nesting.query

def queryPhrase [Nesting] : Parser Phrase := return (← query).phrase

def subexpr [Nesting] (precedence : Nat) : Parser Phrase :=
  return (← Nesting.subexpr precedence).phrase

def expr [Nesting] : Parser Phrase := subexpr 0

/-- One or more items as a list. -/
def listOf (p : Parser Phrase) : Parser Phrase := return Phrase.list (← commaSeparated p)

def exprs [Nesting] : Parser Phrase := listOf expr

/-- What follows a keyword, with the keyword before it; nothing if the keyword is not next. -/
def after (ks : List String) (p : Parser Phrase) : Parser Phrase := do
  if ← keywordRun ks then return Phrase.word (" ".intercalate ks) |>.beside (← p)
  else return Phrase.empty

/-- The next statement of a script and whether a semicolon has to follow it. -/
def scriptStep (statement : Parser Statement) (state : List Statement × Bool × Bool) :
    Parser (Option (List Statement × Bool × Bool)) := do
  let (found, needed, ended) := state
  if ended then return none
  let semicolons ← many do
    if ← symbol ";" then return some () else return none
  let needed := needed && semicolons.isEmpty
  match ← peekToken with
  | none => return none
  | some t =>
    if needed && isKeyword "END" (some t) then return some (found, false, true)
    if needed then expectedNext "end of statement"
    return some ((← statement) :: found, true, false)

/-- Statements to the end of the text, with semicolons between them; a word END after a statement
ends the script. -/
def script (statement : Parser Statement) : Parser (List Statement) :=
  return (← loop ([], false, false) (scriptStep statement)).1.reverse

/-- A query is next. -/
def atQuery : Parser Bool := peekOneOf ["SELECT", "WITH"]

end Parser
end SqlLineage.Sql
