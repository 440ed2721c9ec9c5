import SqlLineage.Number.Binary

/-! JSON values. -/

namespace SqlLineage

inductive Json
  | null
  | bool (value : Bool)
  | integer (value : Int)
  /-- A number written with a point or an exponent, or too great for a whole number. -/
  | floating (value : Number.Binary)
  | string (value : String)
  | array (items : List Json)
  | object (members : List (String × Json))
  deriving Repr

namespace Json

instance : Coe String Json := ⟨string⟩

instance : Coe Bool Json := ⟨bool⟩

instance : Coe Nat Json := ⟨fun n => integer n⟩

def ofOption {α : Type} (f : α → Json) : Option α → Json
  | none => null
  | some a => f a

def ofString? (s : Option String) : Json := ofOption string s

/-- The value of a member; the last of one name counts. -/
def member? (key : String) : Json → Option Json
  | object members => List.lookup key members.reverse
  | _ => none

end Json
end SqlLineage
