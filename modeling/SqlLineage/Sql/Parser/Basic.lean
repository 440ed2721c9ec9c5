import SqlLineage.Sql.Lexer
import SqlLineage.Sql.Statement

/-! The parser monad: tokens are read from the left, white space between them does not count, and
the first error ends the reading. -/

namespace SqlLineage.Sql

/-- Why a text is not a script. -/
inductive SyntaxError
  | lexical (error : LexError)
  | unexpected (message : String)
  /-- Statements, queries and expressions are nested too deeply. -/
  | tooDeep
  deriving DecidableEq, Repr

def SyntaxError.render (e : SyntaxError) : String :=
  "sql parser error: " ++
    match e with
    | lexical error => error.render
    | unexpected message => message
    | tooDeep => "recursion limit exceeded"

/-- What a parser may look up: the dialect, and whether it reads a hierarchical condition. -/
structure Surroundings where
  dialect : Dialect
  hierarchical : Bool := false

abbrev Stream := List Lexeme

/-- An error, and what was left to read when it came up. -/
structure Failure where
  error : SyntaxError
  rest : Stream

def Parser (α : Type) : Type := Surroundings → Stream → Except Failure (α × Stream)

namespace Parser

instance : Monad Parser where
  pure a := fun _ s => .ok (a, s)
  bind p f := fun e s =>
    match p e s with
    | .ok (a, s) => f a e s
    | .error failure => .error failure

instance {α : Type} : Inhabited (Parser α) := ⟨fun _ s => .error ⟨.tooDeep, s⟩⟩

def fail {α : Type} (error : SyntaxError) : Parser α := fun _ s => .error ⟨error, s⟩

def dialect : Parser Dialect := fun e s => .ok (e.dialect, s)

/-- The dialect is one of these. -/
def inDialect (ds : List Dialect) : Parser Bool := fun e s => .ok (ds.contains e.dialect, s)

/-- The dialect makes this choice. -/
def choice (p : Dialect → Bool) : Parser Bool := fun e s => .ok (p e.dialect, s)

def isHierarchical : Parser Bool := fun e s => .ok (e.hierarchical, s)

def hierarchically {α : Type} (p : Parser α) : Parser α :=
  fun e s => p ⟨e.dialect, true⟩ s

/-- What is left to read. -/
def rest : Parser Stream := fun _ s => .ok (s, s)

/-- Goes back, or forward, to an earlier or later rest. -/
def resume (s : Stream) : Parser Unit := fun _ _ => .ok ((), s)

/-- The result, or nothing and no token read where `p` fails; too deep nesting stays an error. -/
def attempt {α : Type} (p : Parser α) : Parser (Option α) := fun e s =>
  match p e s with
  | .ok (a, s) => .ok (some a, s)
  | .error ⟨.tooDeep, s⟩ => .error ⟨.tooDeep, s⟩
  | .error _ => .ok (none, s)

/-- The result or the error of `p`; where it fails no token is read. -/
def outcome {α : Type} (p : Parser α) : Parser (Except SyntaxError α) := fun e s =>
  match p e s with
  | .ok (a, s) => .ok (.ok a, s)
  | .error failure => .ok (.error failure.error, s)

/-- The result or the error of `p`; the tokens that it read stay read. -/
def survive {α : Type} (p : Parser α) : Parser (Except SyntaxError α) := fun e s =>
  match p e s with
  | .ok (a, s) => .ok (.ok a, s)
  | .error failure => .ok (.error failure.error, failure.rest)

/-- The result of `p`, or nothing where it fails; the tokens that it read stay read. -/
def tolerate {α : Type} (p : Parser α) : Parser (Option α) := do
  match ← survive p with
  | .ok a => return some a
  | .error _ => return none

/-! ### Tokens -/

def skipBlanks (s : Stream) : Stream := s.dropWhile (·.token.isBlank)

/-- The next token that counts. -/
def peek : Parser (Option Lexeme) := fun _ s => .ok ((skipBlanks s).head?, s)

def tokenOf (l : Option Lexeme) : Option Token := l.map (·.token)

def peekToken : Parser (Option Token) := return tokenOf (← peek)

def next : Parser (Option Lexeme) := fun _ s =>
  let s := skipBlanks s
  .ok (s.head?, s.tail)

/-- The next token even if it is white space. -/
def peekRaw : Parser (Option Token) := fun _ s => .ok (tokenOf s.head?, s)

def nextRaw : Parser (Option Lexeme) := fun _ s => .ok (s.head?, s.tail)

/-- The token after `n` others, white space not counted. -/
def nthToken : Nat → Stream → Option Token
  | _, [] => none
  | n, l :: s =>
    if l.token.isBlank then nthToken n s
    else match n with
      | 0 => some l.token
      | n + 1 => nthToken n s

def peekNth (n : Nat) : Parser (Option Token) := fun _ s => .ok (nthToken n s, s)

def foundText (l : Option Lexeme) : String :=
  match l with
  | none => "EOF"
  | some l => l.token.render ++ l.place.render

/-- The place of a token as a message ends with it; nothing at the end of the text. -/
def placeText (l : Option Lexeme) : String := (l.map (·.place.render)).getD ""

/-- Another token was expected in place of `found`. -/
def expected {α : Type} (what : String) (found : Option Lexeme) : Parser α :=
  fail (.unexpected ("Expected: " ++ what ++ ", found: " ++ foundText found))

def expectedNext {α : Type} (what : String) : Parser α := do expected what (← peek)

/-- Repeats a step until it gives nothing, at most once more than `bound` is long. -/
def iterate {σ : Type} (step : σ → Parser (Option σ)) : Stream → σ → Parser σ
  | [], s => return (← step s).getD s
  | _ :: bound, s => do
    match ← step s with
    | some s => iterate step bound s
    | none => return s

/-- Repeats a step that reads a token each time; the tokens left are its bound. -/
def loop {σ : Type} (start : σ) (step : σ → Parser (Option σ)) : Parser σ := do
  iterate step (← rest) start

/-- As many results as there are. -/
def many {α : Type} (p : Parser (Option α)) : Parser (List α) := do
  let found ← loop [] fun found => do
    match ← p with
    | some a => return some (a :: found)
    | none => return none
  return found.reverse

/-! ### Symbols -/

def isSymbol (spelling : String) : Option Token → Bool
  | some (.symbol s) => s == spelling
  | _ => false

def peekSymbol (spelling : String) : Parser Bool := return isSymbol spelling (← peekToken)

/-- Reads the symbol if it is next. -/
def symbol (spelling : String) : Parser Bool := do
  if ← peekSymbol spelling then
    let _ ← next
    return true
  else return false

def expectSymbol (spelling : String) : Parser Unit := do
  if !(← symbol spelling) then expectedNext spelling

/-- Reads the symbols if they are next, all of them or none. -/
def symbols (spellings : List String) : Parser Bool := do
  let start ← rest
  for spelling in spellings do
    if !(← symbol spelling) then
      resume start
      return false
  return true

def parens {α : Type} (p : Parser α) : Parser α := do
  expectSymbol "("
  let a ← p
  expectSymbol ")"
  return a

/-! ### Keywords -/

def isKeyword (keyword : String) : Option Token → Bool
  | some (.word _ k _) => k == keyword
  | _ => false

def peekKeyword (keyword : String) : Parser Bool := return isKeyword keyword (← peekToken)

/-- The keyword of the next word; empty if there is no bare word. -/
def nextKeyword : Parser String := do
  match ← peekToken with
  | some (.word _ k _) => return k
  | _ => return ""

/-- Reads the keyword if it is next. -/
def keyword (k : String) : Parser Bool := do
  if ← peekKeyword k then
    let _ ← next
    return true
  else return false

/-- Makes the test only under the condition. -/
def given (condition : Bool) (test : Parser Bool) : Parser Bool :=
  if condition then test else return false

def expectKeyword (k : String) : Parser Unit := do
  if !(← keyword k) then expectedNext k

/-- Reads the keywords if they are next, all of them or none. -/
def keywordRun (ks : List String) : Parser Bool := do
  let start ← rest
  for k in ks do
    if !(← keyword k) then
      resume start
      return false
  return true

def expectKeywords (ks : List String) : Parser Unit := do
  for k in ks do
    expectKeyword k

/-- Reads one of the keywords if it is next. -/
def oneOf (ks : List String) : Parser (Option String) := do
  let k ← nextKeyword
  if !k.isEmpty && ks.contains k then
    let _ ← next
    return some k
  else return none

def expectOneOf (ks : List String) : Parser String := do
  match ← oneOf ks with
  | some k => return k
  | none => expectedNext ("one of " ++ " or ".intercalate ks)

def peekOneOf (ks : List String) : Parser Bool := do
  let k ← nextKeyword
  return !k.isEmpty && ks.contains k

/-- The word is bare and no dialect gives it a meaning, or it is delimited. -/
def isPlainWord : Token → Bool
  | .word _ k _ => !Sql.keywords.contains k
  | _ => false

/-! ### Lists -/

/-- The token ends a list after a trailing comma. -/
def endsList (reserved : List String) : Option Token → Bool
  | none => true
  | some (.word _ k _) => reserved.contains k
  | some (.symbol s) => s == ")" || s == ";" || s == "]" || s == "\x7d"
  | _ => false

/-- Reads the comma between two items; false where the list ends. -/
def listGoesOn (trailing : Bool) (reserved : List String) : Parser Bool := do
  if !(← symbol ",") then return false
  if trailing && endsList reserved (← peekToken) then return false
  return true

def separatedWith {α : Type} (trailing : Bool) (reserved : List String) (p : Parser α) :
    Parser (List α) := do
  let first ← p
  let items ← loop [first] fun items => do
    if ← listGoesOn trailing reserved then return some ((← p) :: items)
    else return none
  return items.reverse

/-- One or more items with commas between. -/
def commaSeparated {α : Type} (p : Parser α) : Parser (List α) := do
  separatedWith (← choice (· == .duckdb)) notColumnAlias p

/-- No item where `stop` is next, else one or more. -/
def commaSeparated0 {α : Type} (p : Parser α) (stop : String) : Parser (List α) := do
  if ← peekSymbol stop then return []
  if (← choice (· == .duckdb)) && isSymbol "," (← peekNth 0) && isSymbol stop (← peekNth 1) then
    let _ ← next
    return []
  commaSeparated p

end Parser
end SqlLineage.Sql
