import SqlLineage.Node
import SqlLineage.Text.LowerCase

/-! Guessing whether a name that nothing defines is a table or a view. -/

namespace SqlLineage

inductive Guess
  /-- A view if the name holds one of the markers, and a table otherwise. -/
  | naming
  | table
  | unknown
  deriving DecidableEq, Repr

namespace Guess

def all : List Guess := [naming, table, unknown]

def name : Guess → String
  | naming => "naming"
  | table => "table"
  | unknown => "unknown"

def defaultMarkers : List String := ["_v_", "_view"]

/-- Case does not matter, and an empty marker marks nothing. -/
def hasMarker (markers : List String) (name : String) : Bool :=
  let name := (Text.lowerCase name).toList
  markers.any fun m => !m.isEmpty && Text.hasInfix (Text.lowerCase m).toList name

def kindOf (guess : Guess) (markers : List String) (base : String) : Kind :=
  match guess with
  | naming => if hasMarker markers base then .view else .table
  | table => .table
  | unknown => .unknown

end Guess
end SqlLineage
