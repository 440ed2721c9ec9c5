import SqlLineage.Sql.Dialect

/-! What each dialect allows in a statement beyond the common grammar. -/

namespace SqlLineage.Dialect

/-! ### Expressions -/

def booleanLiterals (d : Dialect) : Bool := d != mssql

def filterClause (d : Dialect) : Bool :=
  d == postgres || d == sqlite || d == hive || d == duckdb || d == databricks

def nullTreatmentArgument (d : Dialect) : Bool := d == generic || d == bigquery || d == snowflake

def parametricFunctions (d : Dialect) : Bool := d == generic

def bareSubqueryArgument (d : Dialect) : Bool := d == snowflake

def havingBound (d : Dialect) : Bool := d == generic || d == bigquery

def separatorClause (d : Dialect) : Bool := d == generic || d == mysql

def lambdas (d : Dialect) : Bool := d == databricks

def structLiterals (d : Dialect) : Bool := d == generic || d == bigquery || d == databricks

def dictionaries (d : Dialect) : Bool := d == generic || d == duckdb || d == snowflake

def mapLiterals (d : Dialect) : Bool := d == generic || d == duckdb

def tryConvert (d : Dialect) : Bool := d == generic || d == mssql

def convertsTypeFirst (d : Dialect) : Bool := d == mssql || d == redshift

/-- A colon joins the name and the value of an argument. -/
def argumentColon (d : Dialect) : Bool := d == mssql || d == postgres

/-- The name of an argument may be any expression. -/
def argumentExpressions (d : Dialect) : Bool := d == mssql || d == postgres

def matchAgainst (d : Dialect) : Bool := d == generic || d == mysql

def bangNot (d : Dialect) : Bool := d == hive

def outerJoinMark (d : Dialect) : Bool := d == snowflake || d == mssql

/-- A path into a document is written with brackets and colons after a column. -/
def documentPaths (d : Dialect) : Bool := d == redshift || d == snowflake

def subscripts (d : Dialect) : Bool :=
  d == postgres || d == duckdb || d == generic || d == bigquery

def emptyInList (d : Dialect) : Bool := d == sqlite

/-- An interval takes its unit after any value. -/
def intervalNeedsUnit (d : Dialect) : Bool :=
  d == ansi || d == bigquery || d == mysql || d == hive || d == databricks

def customExtractField (d : Dialect) : Bool := d == generic || d == postgres || d == snowflake

def catalogFunctions (d : Dialect) : Bool := d == postgres || d == generic

def existsIsFunction (d : Dialect) : Bool := d == databricks

def arrayIsFunction (d : Dialect) : Bool := d == databricks

def methods (d : Dialect) : Bool := d == mssql

def shiftOperators (d : Dialect) : Bool :=
  d == postgres || d == duckdb || d == generic || d == redshift

def groupingSets (d : Dialect) : Bool :=
  d == generic || d == postgres || d == duckdb || d == databricks

def groupByModifiers (d : Dialect) : Bool := d == generic

/-! ### Queries -/

def emptyProjection (d : Dialect) : Bool := d == generic || d == postgres

def projectionTrailingComma (d : Dialect) : Bool :=
  d == bigquery || d == snowflake || d == duckdb

def fromTrailingComma (d : Dialect) : Bool := d == snowflake || d == duckdb

/-- Most keywords may name a select item without AS. -/
def keywordAliases (d : Dialect) : Bool := d == snowflake

def aliasByEquals (d : Dialect) : Bool := d == mssql

def wildcardExcept (d : Dialect) : Bool := d == generic || d == bigquery || d == databricks

def topBeforeDistinct (d : Dialect) : Bool := d == redshift

def limitComma (d : Dialect) : Bool := d == generic || d == mysql || d == sqlite

def hierarchicalQueries (d : Dialect) : Bool :=
  d == generic || d == snowflake || d == redshift || d == mssql

def namedWindowReference (d : Dialect) : Bool := d == generic || d == bigquery

def doubleDotNames (d : Dialect) : Bool := d == snowflake

def hyphenatedNames (d : Dialect) : Bool := d == bigquery

def timeTravel (d : Dialect) : Bool := d == bigquery || d == mssql || d == snowflake

def rowPatterns (d : Dialect) : Bool := d == generic || d == snowflake

def sampleBeforeAlias (d : Dialect) : Bool := d == hive

/-! ### Statements -/

def commentOn (d : Dialect) : Bool := d == generic || d == postgres || d == snowflake

def listenNotify (d : Dialect) : Bool := d == postgres

def explainOptions (d : Dialect) : Bool := d == generic || d == duckdb || d == postgres

/-- What a SHOW lets through stands before the place it looks at. -/
def showFilterFirst (d : Dialect) : Bool := d == snowflake

def transactionModifier (d : Dialect) : Bool := d == generic || d == sqlite || d == mssql

def setWithoutOperator (d : Dialect) : Bool := d == mssql

def parenthesizedSet (d : Dialect) : Bool := d == generic || d == snowflake || d == bigquery

def insertSet (d : Dialect) : Bool := d == mysql

def createTableSelect (d : Dialect) : Bool := d == mysql

def columnTrailingComma (d : Dialect) : Bool := d == duckdb

def sortedPrimaryKey (d : Dialect) : Bool := d == generic || d == sqlite

def indexWithClause (d : Dialect) : Bool := d == generic || d == postgres

def userAtHost (d : Dialect) : Bool := d == generic || d == mysql

def describeNeedsTable (d : Dialect) : Bool := d == snowflake

end SqlLineage.Dialect
