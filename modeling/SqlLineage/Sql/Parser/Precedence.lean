import SqlLineage.Sql.Parser.Nesting

/-! How strongly operators bind. -/

namespace SqlLineage.Sql

/-- Binding strength of each group of operators. -/
structure Precedences where
  doubleColon : Nat
  atTimeZone : Nat
  times : Nat
  plus : Nat
  xor : Nat
  ampersand : Nat
  caret : Nat
  pipe : Nat
  between : Nat
  equals : Nat
  like : Nat
  is : Nat
  other : Nat
  not : Nat
  and : Nat
  or : Nat

def Precedences.common : Precedences :=
  { doubleColon := 50, atTimeZone := 41, times := 40, plus := 30, xor := 24, ampersand := 23,
    caret := 22, pipe := 21, between := 20, equals := 20, like := 19, is := 17, other := 16,
    not := 15, and := 10, or := 5 }

def Precedences.postgres : Precedences :=
  { doubleColon := 140, atTimeZone := 110, times := 90, plus := 80, xor := 75, ampersand := 70,
    caret := 100, pipe := 70, between := 60, equals := 50, like := 60, is := 40, other := 70,
    not := 30, and := 20, or := 10 }

def Precedences.of (d : Dialect) : Precedences :=
  if d == .postgres then Precedences.postgres else Precedences.common

/-- Operators that compare. -/
def comparisons : List String := ["=", "<>", "<", "<=", ">", ">="]

def equalityOperators : List String :=
  ["=", "<", "<=", "<>", ">", ">=", "==", "~", "~*", "!~", "!~*", "~~", "~~*", "!~~", "!~~*",
    "<=>"]

def documentOperators : List String :=
  ["->", "->>", "#>", "#>>", "@>", "<@", "#-", "@?", "@@", "?", "?&", "?|"]

/-- Symbols that one dialect ranks with its custom operators. -/
def postgresOperators : List String := documentOperators ++ ["!", "&&", "^@", "||", "#", ">>", "<<"]

/-- The binding strength of a symbol between two expressions; zero if it is no operator. -/
def symbolPrecedence (d : Dialect) (p : Precedences) (s : String) : Nat :=
  if d == .postgres && s == "[" then 130
  else if d == .postgres && postgresOperators.contains s then 70
  else if d == .snowflake && s == ":" then p.doubleColon
  else if s == "." then if d == .postgres then 200 else 100
  else if equalityOperators.contains s then p.equals
  else if s == "|" then p.pipe
  else if ["^", "#", ">>", "<<"].contains s then p.caret
  else if s == "&" then p.ampersand
  else if s == "+" || s == "-" then p.plus
  else if ["*", "/", "//", "%", "||"].contains s then p.times
  else if ["::", "!", "[", "&&", "^@"].contains s then p.doubleColon
  else if documentOperators.contains s then p.other
  else 0

def patternWords : List String := ["LIKE", "ILIKE", "RLIKE", "REGEXP", "SIMILAR"]

/-- The binding strength of a keyword, given the two tokens after it. -/
def wordPrecedence (d : Dialect) (p : Precedences) (k : String) (second third : Option Token) :
    Nat :=
  if d == .postgres && k == "COLLATE" then 120
  else match k with
    | "OR" => p.or
    | "AND" => p.and
    | "XOR" => p.xor
    | "AT" =>
      if Parser.isKeyword "TIME" second && Parser.isKeyword "ZONE" third then p.atTimeZone else 0
    | "NOT" =>
      if Parser.isKeyword "IN" second || Parser.isKeyword "BETWEEN" second then p.between
      else if patternWords.any (Parser.isKeyword · second) then p.like
      else 0
    | "IS" => p.is
    | "IN" | "BETWEEN" | "OVERLAPS" | "OPERATOR" => p.between
    | "DIV" => p.times
    | _ => if patternWords.contains k then p.like else 0

namespace Parser

def precedences : Parser Precedences := return Precedences.of (← dialect)

/-- The binding strength of what comes next. -/
def nextPrecedence : Parser Nat := do
  let d ← dialect
  let p := Precedences.of d
  match ← peekToken with
  | some (.symbol s) => return symbolPrecedence d p s
  | some (.customOperator _) => return p.other
  | some (.word _ k _) => return wordPrecedence d p k (← peekNth 1) (← peekNth 2)
  | _ => return 0

end Parser
end SqlLineage.Sql
