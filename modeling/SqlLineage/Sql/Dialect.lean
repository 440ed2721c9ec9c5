import SqlLineage.Text.Blank
import SqlLineage.Text.LowerCase

/-! The SQL dialects, their names, and the labels a user may give for them. -/

namespace SqlLineage

inductive Dialect
  | generic
  | ansi
  | postgres
  | duckdb
  | snowflake
  | bigquery
  | mysql
  | mssql
  | hive
  | redshift
  | sqlite
  | databricks
  deriving DecidableEq, Repr

namespace Dialect

def all : List Dialect :=
  [generic, ansi, postgres, duckdb, snowflake, bigquery, mysql, mssql, hive, redshift, sqlite,
    databricks]

def name : Dialect → String
  | generic => "generic"
  | ansi => "ansi"
  | postgres => "postgres"
  | duckdb => "duckdb"
  | snowflake => "snowflake"
  | bigquery => "bigquery"
  | mysql => "mysql"
  | mssql => "mssql"
  | hive => "hive"
  | redshift => "redshift"
  | sqlite => "sqlite"
  | databricks => "databricks"

/-- Other labels that select a dialect; the empty label selects the generic one. -/
def aliases : List (String × Dialect) :=
  [("", generic), ("postgresql", postgres), ("pg", postgres), ("bq", bigquery),
    ("mariadb", mysql), ("tsql", mssql), ("sqlserver", mssql), ("spark", databricks),
    ("sparksql", databricks)]

/-- The dialect of a label; case and surrounding blanks do not matter. -/
def ofLabel? (label : String) : Option Dialect :=
  let key := Text.lowerCase (Text.trim label)
  match all.find? (·.name == key) with
  | some d => some d
  | none => aliases.lookup key

/-- An unknown label selects the generic dialect. -/
def ofLabelOrGeneric (label : String) : Dialect := (ofLabel? label).getD generic

/-- A backslash in a literal protects the next character when a script is cut into statements. -/
def backslashEscapes (d : Dialect) : Bool := d == mysql || d == bigquery

end Dialect
end SqlLineage
