import SqlLineage.Sql.Dialect
import SqlLineage.Text.Pattern

/-! Commenting out what a database dump holds beside SQL: rows of data after a COPY, commands of
the interactive client, and changes of a schema. -/

namespace SqlLineage.Script

/-- The line begins rows of data that follow it in the script. -/
def startsData (line : List Char) : Bool :=
  match Text.afterWord? "COPY".toList line with
  | some (c :: rest) =>
    Text.isBlank c && Text.anySuffix (fun cs =>
      ((Text.afterBlanks? cs).bind (Text.afterWords? ["FROM", "STDIN"])).isSome) rest
  | _ => false

def endsData (line : List Char) : Bool := line == ['\\', '.']

def isClientCommand (line : List Char) : Bool := line.head? == some '\\'

def isSchemaChange (line : List Char) : Bool :=
  (Text.afterWords? ["ALTER", "SCHEMA"] line).any Text.endsWord

def commented (line : List Char) : List Char := '-' :: '-' :: ' ' :: line

/-- One line of a dump, without the blanks around it where that is all that is kept, and whether
rows of data follow. -/
def cleanLine (inData : Bool) (line : List Char) : List Char × Bool :=
  let trimmed := Text.trimChars line
  if inData then (commented line, !endsData trimmed)
  else if startsData trimmed then (commented trimmed, true)
  else if isClientCommand trimmed || isSchemaChange trimmed then (commented trimmed, false)
  else (line, false)

def cleanLines (inData : Bool) : List (List Char) → List (List Char)
  | [] => []
  | line :: rest =>
    let (cleaned, inData) := cleanLine inData line
    cleaned :: cleanLines inData rest

/-- The script with every line that is not SQL commented out. A script that holds no such line is
kept as it is, line ends included. -/
def cleanDump (sql : String) : String :=
  let lines := Text.linesFrom [] sql.toList
  let cleaned := cleanLines false lines
  if cleaned = lines then sql else "\n".intercalate (cleaned.map String.ofList)

/-- Scripts for Postgres are often dumps. -/
def preprocess (dialect : Dialect) (sql : String) : String :=
  if dialect = .postgres then cleanDump sql else sql

end SqlLineage.Script
