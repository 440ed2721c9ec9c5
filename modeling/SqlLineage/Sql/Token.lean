import SqlLineage.Text.Blank

/-! Tokens of a SQL text and their spelling in messages. -/

namespace SqlLineage.Sql

/-- How a string literal is written. -/
inductive StringForm
  | single
  | double
  | tripleSingle
  | tripleDouble
  | national
  | escaped
  | unicode
  | hex
  | byteSingle
  | byteDouble
  | byteTripleSingle
  | byteTripleDouble
  | rawSingle
  | rawDouble
  | rawTripleSingle
  | rawTripleDouble
  deriving DecidableEq, Repr

/-- Opening and closing of a literal. -/
def StringForm.marks : StringForm → String × String
  | single => ("'", "'")
  | double => ("\"", "\"")
  | tripleSingle => ("'''", "'''")
  | tripleDouble => ("\"\"\"", "\"\"\"")
  | national => ("N'", "'")
  | escaped => ("E'", "'")
  | unicode => ("U&'", "'")
  | hex => ("X'", "'")
  | byteSingle => ("B'", "'")
  | byteDouble => ("B\"", "\"")
  | byteTripleSingle => ("B'''", "'''")
  | byteTripleDouble => ("B\"\"\"", "\"\"\"")
  | rawSingle => ("R'", "'")
  | rawDouble => ("R\"", "\"")
  | rawTripleSingle => ("R'''", "'''")
  | rawTripleDouble => ("R\"\"\"", "\"\"\"")

inductive Token
  /-- `keyword` is the upper-cased text of a bare word and empty for a delimited one. -/
  | word (value : String) (keyword : String) (quote : Option Char)
  | number (digits : String) (long : Bool)
  | text (form : StringForm) (value : String)
  | dollarText (tag : Option String) (value : String)
  | symbol (spelling : String)
  /-- An operator that only the dialect's users give a meaning to. -/
  | customOperator (spelling : String)
  | placeholder (spelling : String)
  | space
  | tab
  | newline
  | lineComment (opening body : String)
  | blockComment (body : String)
  deriving DecidableEq, Repr

/-- The character that closes what `c` opens. -/
def closingQuote (c : Char) : Char := if c = '[' then ']' else c

namespace Token

def isBlank : Token → Bool
  | space | tab | newline | lineComment .. | blockComment .. => true
  | _ => false

def render : Token → String
  | word value _ none => value
  | word value _ (some q) => q.toString ++ value ++ (closingQuote q).toString
  | number digits long => if long then digits ++ "L" else digits
  | text form value => form.marks.1 ++ value ++ form.marks.2
  | dollarText tag value =>
    let mark := "$" ++ tag.getD "" ++ "$"
    mark ++ value ++ mark
  | symbol spelling | customOperator spelling | placeholder spelling => spelling
  | space => " "
  | tab => "\t"
  | newline => "\n"
  | lineComment opening body => opening ++ body
  | blockComment body => "/*" ++ body ++ "*/"

end Token

/-- Line and column of a character, counted from one. -/
structure Place where
  line : Nat
  column : Nat
  deriving DecidableEq, Repr

namespace Place

def start : Place := ⟨1, 1⟩

/-- The place after a character. -/
def after (p : Place) (c : Char) : Place :=
  if c = '\n' then ⟨p.line + 1, 1⟩ else ⟨p.line, p.column + 1⟩

def render (p : Place) : String :=
  " at Line: " ++ toString p.line ++ ", Column: " ++ toString p.column

end Place

/-- A token and the place of its first character. -/
structure Lexeme where
  token : Token
  place : Place
  deriving DecidableEq, Repr

end SqlLineage.Sql
