/-! Values by name, in the order of the names. -/

namespace SqlLineage

/-- Entries in ascending order of their names, each name once. -/
abbrev Catalog (α : Type) := List (String × α)

namespace Catalog

variable {α β : Type}

def find? (catalog : Catalog α) (name : String) : Option α := List.lookup name catalog

def contains (catalog : Catalog α) (name : String) : Bool := (catalog.find? name).isSome

def names (catalog : Catalog α) : List String := catalog.map Prod.fst

def values (catalog : Catalog α) : List α := catalog.map Prod.snd

/-- The value takes its place among the names, or the place of the one that has its name. -/
def insert (name : String) (value : α) : Catalog α → Catalog α
  | [] => [(name, value)]
  | (n, v) :: rest =>
    if name < n then (name, value) :: (n, v) :: rest
    else if name = n then (name, value) :: rest
    else (n, v) :: insert name value rest

/-- The later of two values of one name counts. -/
def ofList (entries : List (String × α)) : Catalog α :=
  entries.foldl (fun catalog e => insert e.1 e.2 catalog) []

end Catalog
end SqlLineage
