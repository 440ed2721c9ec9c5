import SqlLineage.Sql.Quoting
import SqlLineage.Sql.Token

/-! Identifiers and the dotted names of tables, views and other objects. -/

namespace SqlLineage.Sql

/-- An identifier as written: bare, or between the quotes that `quote` opens. -/
structure Ident where
  value : String
  quote : Option Char
  deriving DecidableEq, Repr

namespace Ident

def bare (value : String) : Ident := ⟨value, none⟩

def render (i : Ident) : String :=
  match i.quote with
  | none => i.value
  | some '[' => "[" ++ i.value ++ "]"
  | some q => quoted q i.value

end Ident

/-- The identifiers of a name, outermost first. -/
abbrev ObjectName := List Ident

def ObjectName.render (name : ObjectName) : String := ".".intercalate (name.map Ident.render)

end SqlLineage.Sql
