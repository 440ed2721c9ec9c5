import SqlLineage.Text.Split

/-! Paths as text. Empty parts and single dots say nothing and are passed over. -/

namespace SqlLineage.Path

/-- The names along a path. -/
def components (path : String) : List String :=
  ((Text.splitAtChar '/' path.toList).map String.ofList).filter fun part =>
    !part.isEmpty && part != "."

/-- The path says that what it leads to is a directory. -/
def namesDirectory (path : String) : Bool :=
  match (Text.splitAtChar '/' path.toList).getLast? with
  | some [] | some ['.'] => true
  | _ => false

/-- The path ends with a dot, which is a place inside the directory before it. -/
def endsInDot (path : String) : Bool :=
  ((Text.splitAtChar '/' path.toList).reverse.dropWhile List.isEmpty).head? == some ['.']

/-- One name further along a path. Above the root is the root. -/
def step (place : List String) (name : String) : List String :=
  if name = ".." then place.dropLast else place ++ [name]

/-- The last name; a path that ends by going up has none. -/
def fileName? (path : String) : Option String :=
  match (components path).getLast? with
  | some ".." => none
  | name => name

/-- A name before and after its last dot. A dot at the front divides nothing. -/
def splitName (name : String) : String × Option String :=
  let reversed := name.toList.reverse
  let after := reversed.takeWhile (· != '.')
  match reversed.dropWhile (· != '.') with
  | [] | [_] => (name, none)
  | _ :: before => (String.ofList before.reverse, some (String.ofList after.reverse))

def extension? (path : String) : Option String :=
  (fileName? path).bind fun name => (splitName name).2

def stem? (path : String) : Option String := (fileName? path).map fun name => (splitName name).1

def join (path name : String) : String :=
  if path.isEmpty || path.toList.getLast? = some '/' then path ++ name else path ++ "/" ++ name

/-- Paths are ordered name by name. -/
def le (a b : String) : Bool := !(components b < components a : Bool)

end SqlLineage.Path
