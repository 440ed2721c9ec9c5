import SqlLineage.Text.Pattern
import SqlLineage.Script.Error

/-! The first look at a script: it is worth parsing if one of the usual words of SQL is in it. -/

namespace SqlLineage.Script

def usualWords : List String :=
  ["SELECT", "CREATE", "INSERT", "UPDATE", "DELETE", "WITH", "ALTER", "DROP", "MERGE", "REPLACE"]

def hasUsualWord (sql : String) : Bool := Text.hasWord usualWords false sql.toList

def validate (sql : String) : Except Error Unit :=
  if (Text.trim sql).isEmpty then .error .blank
  else if hasUsualWord sql then .ok ()
  else .error .noKeyword

end SqlLineage.Script
