import SqlLineage.Sql.Dialect
import SqlLineage.Text.Alphabetic

/-! How each dialect cuts text into tokens: the characters of bare identifiers, the quotes of
delimited ones, and the forms of strings and comments. -/

namespace SqlLineage.Dialect

def isDigit (c : Char) : Bool := '0' ≤ c && c ≤ '9'

def isAsciiLetter (c : Char) : Bool := c.isAlpha

def startsIdentifier (d : Dialect) (c : Char) : Bool :=
  match d with
  | generic | mssql => Text.isAlphabetic c || c == '_' || c == '#' || c == '@'
  | ansi => isAsciiLetter c
  | postgres | duckdb => Text.isAlphabetic c || c == '_'
  | snowflake | bigquery | databricks => isAsciiLetter c || c == '_'
  | mysql =>
    Text.isAlphabetic c || c == '_' || c == '$' || c == '@' || (0x80 ≤ c.toNat && c.toNat ≤ 0xFFFF)
  | hive => isAsciiLetter c || isDigit c || c == '$'
  | redshift => Text.isAlphabetic c || c == '_' || c == '#'
  | sqlite => isAsciiLetter c || c == '_' || (0x7F ≤ c.toNat && c.toNat ≤ 0xFFFF)

def continuesIdentifier (d : Dialect) (c : Char) : Bool :=
  match d with
  | generic | mssql =>
    Text.isAlphabetic c || isDigit c || c == '@' || c == '$' || c == '#' || c == '_'
  | ansi | bigquery | databricks => isAsciiLetter c || isDigit c || c == '_'
  | postgres | duckdb => Text.isAlphabetic c || isDigit c || c == '$' || c == '_'
  | snowflake => isAsciiLetter c || isDigit c || c == '$' || c == '_'
  | mysql | sqlite => d.startsIdentifier c || isDigit c
  | hive =>
    isAsciiLetter c || isDigit c || c == '_' || c == '$' || c.toNat == 0x7B || c.toNat == 0x7D
  | redshift => Text.isAlphabetic c || isDigit c || c == '$' || c == '_' || c == '#'

/-- The characters that open a delimited identifier. -/
def identifierQuotes : Dialect → List Char
  | postgres => ['"']
  | bigquery | mysql | databricks => ['\x60']
  | mssql => ['"', '[']
  | sqlite => ['\x60', '"', '[']
  | _ => ['"', '\x60']

/-- A bracket opens a delimited identifier only before an identifier or a quoted name. -/
def bracketsNames (d : Dialect) : Bool := d == redshift

/-- A backslash in a string literal escapes the next character. -/
def backslashInStrings (d : Dialect) : Bool := d == mysql || d == bigquery || d == snowflake

def tripleQuotedStrings (d : Dialect) : Bool := d == bigquery

def nestedComments (d : Dialect) : Bool := d == generic || d == postgres

def hashComments (d : Dialect) : Bool :=
  d == snowflake || d == bigquery || d == mysql || d == hive

def slashComments (d : Dialect) : Bool := d == snowflake

def slashDivision (d : Dialect) : Bool := d == duckdb || d == generic

/-- A line comment also ends at a carriage return. -/
def commentEndsAtReturn (d : Dialect) : Bool := d == postgres

def byteStrings (d : Dialect) : Bool :=
  d == bigquery || d == postgres || d == mysql || d == generic

def rawStrings (d : Dialect) : Bool := d == bigquery || d == generic

def unicodeStrings (d : Dialect) : Bool := d == postgres || d == generic

/-- A dollar sign starts a placeholder and never a quoted body. -/
def dollarPlaceholders (d : Dialect) : Bool := d == sqlite

/-- A bare identifier may start with digits. -/
def digitsStartNames (d : Dialect) : Bool := d == mysql || d == hive

/-- Runs of operator characters form one operator. -/
def customOperators (d : Dialect) : Bool := d == postgres

/-- A question mark is an operator and never a placeholder. -/
def questionOperators (d : Dialect) : Bool := d == postgres

end SqlLineage.Dialect
