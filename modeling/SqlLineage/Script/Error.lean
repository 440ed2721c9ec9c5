import SqlLineage.Sql.Dialect

/-! Why a script gives no lineage at all. -/

namespace SqlLineage.Script

inductive Error
  | blank
  | noKeyword
  | noStatement
  /-- No statement of the script parses; `message` says why the whole does not. -/
  | unparsable (dialect : Dialect) (message : String)
  deriving DecidableEq, Repr

def Error.message : Error → String
  | blank => "invalid SQL: SQL content is empty"
  | noKeyword => "invalid SQL: no common SQL keywords found"
  | noStatement => "invalid SQL: no SQL statements found outside comments"
  | unparsable dialect message =>
    "failed to parse SQL with the " ++ dialect.name ++ " dialect: " ++ message

end SqlLineage.Script
