import SqlLineage.Sql.Name
import SqlLineage.Text.Blank
import SqlLineage.Text.Split

/-! References to tables and views. A reference is known by its base, the last part of the name
without quotes; its schema is the first part if there are more. -/

namespace SqlLineage

structure Reference where
  fullName : String
  schema : Option String
  base : String
  deriving DecidableEq, Repr

def isQuoteMark (c : Char) : Bool :=
  c == '"' || c == '\x60' || c == '\'' || c == '[' || c == ']'

/-- A name without the blanks and then without the quotes around it. -/
def stripQuotes (cs : List Char) : List Char := Text.trimWhile isQuoteMark (Text.trimChars cs)

/-- What closes the quote that `c` opens. -/
def closing? (c : Char) : Option Char :=
  if c = '"' || c = '\x60' || c = '\'' then some c else if c = '[' then some ']' else none

/-- The parts of a name between the dots outside quotes; `quote` closes the quote that is open. -/
def splitQualified (quote : Option Char) : List Char → List (List Char)
  | [] => [[]]
  | c :: rest =>
    match quote with
    | some q => Text.consFirst c (splitQualified (if c = q then none else some q) rest)
    | none =>
      if c = '.' then [] :: splitQualified none rest
      else Text.consFirst c (splitQualified (closing? c) rest)

namespace Reference

/-- The first of several parts if it says anything. -/
def schemaOf (parts : List (List Char)) : Option String :=
  match parts with
  | first :: _ :: _ => if first.isEmpty then none else some (String.ofList first)
  | _ => none

/-- The reference with these parts; nothing if the last part is empty. -/
def ofParts (fullName : String) (parts : List (List Char)) : Option Reference :=
  match parts.getLast? with
  | none | some [] => none
  | some base => some ⟨fullName, schemaOf parts, String.ofList base⟩

/-- The reference that a text writes out, such as "s".t. -/
def parse (raw : String) : Option Reference :=
  let name := Text.trimChars raw.toList
  ofParts (String.ofList name) ((splitQualified none name).map stripQuotes)

/-- The texts of the parts of a name. A name that is one identifier between backticks may hold a
whole path. -/
def nameParts : Sql.ObjectName → List (List Char)
  | [⟨value, some '\x60'⟩] => Text.splitAtChar '.' value.toList
  | idents => idents.map fun i => i.value.toList

def ofObjectName (name : Sql.ObjectName) : Option Reference :=
  ofParts (Sql.ObjectName.render name) ((nameParts name).map stripQuotes)

/-- A reference without a schema. -/
def bare (name : String) : Option Reference :=
  match stripQuotes name.toList with
  | [] => none
  | base => some ⟨String.ofList base, none, String.ofList base⟩

end Reference

def baseName? (raw : String) : Option String := (Reference.parse raw).map Reference.base

end SqlLineage
