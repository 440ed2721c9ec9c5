import SqlLineage.Files.Path

/-! A directory with all that is in it, as a value. -/

namespace SqlLineage

inductive Entry
  | text (content : String)
  /-- A file that does not hold text. -/
  | binary
  | directory
  deriving DecidableEq, Repr

inductive FileError
  | notFound
  | notDirectory
  | isDirectory
  | alreadyThere
  | notText
  deriving DecidableEq, Repr

def FileError.message : FileError → String
  | notFound => "No such file or directory (os error 2)"
  | notDirectory => "Not a directory (os error 20)"
  | isDirectory => "Is a directory (os error 21)"
  | alreadyThere => "File exists (os error 17)"
  | notText => "stream did not contain valid UTF-8"

/-- Every entry by the names that lead to it from the root, which is at the empty place; paths
start at `cwd` unless they start with a slash. -/
structure FileTree where
  entries : List (List String × Entry) := []
  cwd : List String := []

namespace FileTree

def get? (tree : FileTree) (place : List String) : Option Entry :=
  if place.isEmpty then some .directory else tree.entries.lookup place

def put (tree : FileTree) (place : List String) (e : Entry) : FileTree :=
  { tree with entries := (place, e) :: tree.entries.filter fun other => other.1 != place }

def isAbsolute (path : String) : Bool := path.toList.head? == some '/'

/-- Where a path starts. -/
def origin (tree : FileTree) (path : String) : List String :=
  if isAbsolute path then [] else tree.cwd

/-- The place that a path names, be anything there or not. -/
def place (tree : FileTree) (path : String) : List String :=
  (Path.components path).foldl Path.step (tree.origin path)

/-- Follows names from a place; every place on the way has to be a directory. Above the root is
the root. -/
def follow (tree : FileTree) (place : List String) :
    List String → Except FileError (List String)
  | [] => .ok place
  | name :: names =>
    if tree.get? place != some .directory then .error .notDirectory
    else if name = ".." then follow tree place.dropLast names
    else if (tree.get? (place ++ [name])).isNone then .error .notFound
    else follow tree (place ++ [name]) names

/-- The place that a path leads to, and what is there. -/
def look (tree : FileTree) (path : String) : Except FileError (List String × Entry) := do
  if path.isEmpty then throw .notFound
  let place ← tree.follow (tree.origin path) (Path.components path)
  match tree.get? place with
  | none => throw .notFound
  | some e =>
    if Path.namesDirectory path && e != .directory then throw .notDirectory
    return (place, e)

def present (tree : FileTree) (path : String) : Bool := (tree.look path).isOk

def isDirectory (tree : FileTree) (path : String) : Bool :=
  match tree.look path with
  | .ok (_, .directory) => true
  | _ => false

def isFile (tree : FileTree) (path : String) : Bool :=
  match tree.look path with
  | .ok (_, .directory) => false
  | .ok _ => true
  | .error _ => false

def readText (tree : FileTree) (path : String) : Except FileError String := do
  match ← tree.look path with
  | (_, .text content) => return content
  | (_, .binary) => throw .notText
  | (_, .directory) => throw .isDirectory

/-- The files under a directory, as paths that start with the path of the directory. -/
def filesUnder (tree : FileTree) (path : String) : List String :=
  match tree.look path with
  | .ok (place, .directory) =>
    tree.entries.filterMap fun (other, e) =>
      if place.isPrefixOf other && e != .directory then
        some (Path.join path ("/".intercalate (other.drop place.length)))
      else none
  | _ => []

/-- Makes the directories along the names that are not there yet. -/
def makeAlong (tree : FileTree) (place : List String) :
    List String → Except FileError (FileTree × List String)
  | [] => .ok (tree, place)
  | name :: names =>
    if name = ".." then makeAlong tree place.dropLast names
    else
      let place := place ++ [name]
      match tree.get? place with
      | none => makeAlong (tree.put place .directory) place names
      | some .directory => makeAlong tree place names
      | some _ => .error (if names.isEmpty then .alreadyThere else .notDirectory)

/-- Makes the directory that a path leads to and those on the way. A dot at the end says that the
directory is there: only those on the way are made then. -/
def makeDirectory (tree : FileTree) (path : String) : Except FileError (FileTree × List String) :=
  let names := Path.components path
  if !Path.endsInDot path then tree.makeAlong (tree.origin path) names
  else match tree.look path with
    | .ok (place, _) => .ok (tree, place)
    | .error .notFound => do
      let (tree, _) ← tree.makeAlong (tree.origin path) names.dropLast
      let (place, _) ← tree.look path
      return (tree, place)
    | .error e => .error e

/-- Writes files at a place, up to the first that cannot be written. -/
def writeAt (tree : FileTree) (place : List String) :
    List (String × String) → FileTree × Except FileError Unit
  | [] => (tree, .ok ())
  | (name, content) :: files =>
    let target := place ++ [name]
    if tree.get? target = some .directory then (tree, .error .isDirectory)
    else writeAt (tree.put target (.text content)) place files

/-- Writes files into a directory, which is made first. -/
def writeAll (tree : FileTree) (path : String) (files : List (String × String)) :
    FileTree × Except FileError Unit :=
  match tree.makeDirectory path with
  | .error e => (tree, .error e)
  | .ok (tree, place) => tree.writeAt place files

/-- The texts that are not as they were, by place. -/
def changes (before after : FileTree) : List (List String × String) :=
  after.entries.filterMap fun (place, e) =>
    match e with
    | .text content => if before.get? place = some e then none else some (place, content)
    | _ => none

/-- An entry with the directories on the way to it. -/
def add (tree : FileTree) (place : List String) (e : Entry) : FileTree :=
  let parents := (List.range place.length).map place.take
  let tree := parents.foldl (fun tree p =>
    if (tree.get? p).isSome then tree else tree.put p .directory) tree
  if place.isEmpty then tree else tree.put place e

/-- A directory with files by path. -/
def ofPaths (cwd : List String) (entries : List (String × Entry)) : FileTree :=
  entries.foldl (fun tree (path, e) => tree.add (cwd ++ Path.components path) e)
    (FileTree.add { cwd := cwd } cwd .directory)

end FileTree
end SqlLineage
