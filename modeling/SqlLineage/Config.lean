import SqlLineage.Files.Tree
import SqlLineage.Guess
import SqlLineage.Sql.Dialect
import SqlLineage.Yaml.Document

/-! Settings of a run, and the file that gives them. -/

namespace SqlLineage

inductive Format
  | text
  | json
  | dot
  deriving DecidableEq, Repr

namespace Format

def all : List Format := [text, json, dot]

def name : Format → String
  | text => "text"
  | json => "json"
  | dot => "dot"

end Format

structure Config where
  dialect : String := "generic"
  format : Format := .text
  guess : Guess := .naming
  markers : List String := Guess.defaultMarkers
  /-- Which files of a directory are scripts. -/
  extensions : List String := ["sql", "vql"]
  deriving DecidableEq, Repr

namespace Config

def kindOf (c : Config) (base : String) : Kind := c.guess.kindOf c.markers base

def sameLetters (a b : String) : Bool := a.toLower == b.toLower

def accepts (c : Config) (path : String) : Bool :=
  (Path.extension? path).any fun e => c.extensions.any (sameLetters e)

/-- A dialect that is asked for wins over the one in the settings. -/
def dialectLabel (c : Config) (asked : Option String) : String := asked.getD c.dialect

/-! ### Reading -/

open Yaml (Document Item LoadError)

def fieldNames : List String := ["dialect", "format", "kind_guess", "view_markers", "extensions"]

/-- The value of a field; what is no field is passed over. -/
def readField (d : Document) (c : Config) (key : String) (items : List Item) :
    Except LoadError (Config × List Item) :=
  match key with
  | "dialect" => do
    let (v, rest) ← d.text "a string" key items
    return ({ c with dialect := v }, rest)
  | "format" => do
    let (v, rest) ← d.variant (Format.all.map fun f => (f.name, f)) key items
    return ({ c with format := v }, rest)
  | "kind_guess" => do
    let (v, rest) ← d.variant (Guess.all.map fun g => (g.name, g)) key items
    return ({ c with guess := v }, rest)
  | "view_markers" => do
    let (v, rest) ← d.texts key items
    return ({ c with markers := v }, rest)
  | "extensions" => do
    let (v, rest) ← d.texts key items
    return ({ c with extensions := v }, rest)
  | _ => return (c, ← d.skipNode 0 items)

/-- The members of a mapping; `seen` holds the fields that are set, and `mark` is where it
starts. -/
def readMembers (d : Document) (mark : Yaml.Mark) (seen : List String) (c : Config) :
    Nat → List Item → Except LoadError Config
  | 0, _ => .error d.endOfItems
  | fuel + 1, items => do
    match items with
    | [] => throw d.endOfItems
    | .event ⟨.mappingEnd, _, _, _⟩ :: _ => return c
    | items =>
      let (key, items) ← d.text "field identifier" "." items
      if seen.contains key then
        throw (.unfit ("duplicate field " ++ Text.ticked key) mark ".")
      let (c, items) ← readField d c key items
      readMembers d mark (if fieldNames.contains key then key :: seen else seen) c fuel items

def ofDocument (d : Document) : Except LoadError Config :=
  match d.items, d.failure with
  | [], none => .ok {}
  | items, _ => do
    let e ← d.peek items d.depth
    match e.kind with
    | .mappingStart => readMembers d e.mark [] {} d.depth (items.drop 1)
    | _ =>
      if Document.isLeftOut e then return {}
      throw (Document.wrongType e "struct DataflowConfig" ".")

/-- The settings that a text gives. -/
def ofYaml (text : String) : Except LoadError Config := do
  let d := Yaml.load text
  let c ← ofDocument d
  match d.failure with
  | some e => throw e
  | none => if d.more then throw .severalDocuments else return c

def defaultFile : String := "dataflow.yaml"

inductive ReadError
  | notFound (path : String)
  | unreadable (path : String) (error : FileError)
  | invalid (path : String) (error : LoadError)
  deriving DecidableEq, Repr

def ReadError.message : ReadError → String
  | notFound path => "Configuration file not found at: " ++ path
  | unreadable path error => "Failed to read " ++ path ++ ": " ++ error.message
  | invalid path error => "Invalid configuration in " ++ path ++ ": " ++ error.message

/-- The settings of a file, which messages call `shown`. -/
def readFile (tree : FileTree) (path shown : String) : Except ReadError Config :=
  match tree.readText path with
  | .error e => .error (.unreadable shown e)
  | .ok text =>
    match ofYaml text with
    | .error e => .error (.invalid shown e)
    | .ok c => .ok c

/-- The settings of the file that is asked for, or of the default file if there is one; `here` is
the name of the directory that the tree holds. -/
def read (tree : FileTree) (here : String) (asked : Option String) : Except ReadError Config :=
  match asked with
  | some path => if tree.present path then readFile tree path path else .error (.notFound path)
  | none =>
    if tree.present defaultFile then readFile tree defaultFile (Path.join here defaultFile)
    else .ok {}

end Config
end SqlLineage
