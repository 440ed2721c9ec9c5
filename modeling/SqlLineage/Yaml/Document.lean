import SqlLineage.Yaml.Event
import SqlLineage.Yaml.Scalar

/-! The first document of a YAML text, and reading values off it. What is wrong with the text
counts only once reading gets there. -/

namespace SqlLineage.Yaml

open Text (debugText ticked)

inductive LoadError
  | malformed (error : SyntaxError)
  | unknownAnchor (mark : Mark)
  | endOfStream
  | severalDocuments
  /-- A tag is none of those that are known. -/
  | unknownTag (message : String)
  /-- A value is not what it should be; `path` leads to it. -/
  | unfit (message : String) (mark : Mark) (path : String)
  deriving DecidableEq, Repr

/-- The start of the text is no place worth saying. -/
def placed (message : String) (mark : Mark) : String :=
  if mark.atStart then message else message ++ " at " ++ mark.text

def LoadError.message : LoadError → String
  | malformed error => error.message
  | unknownAnchor mark => placed "unknown anchor" mark
  | endOfStream => "EOF while parsing a value"
  | severalDocuments =>
    "deserializing from YAML containing more than one document is not supported"
  | unknownTag message => message
  | unfit message mark path =>
    placed (if path == "." then message else path ++ ": " ++ message) mark

/-- An event of a document; an alias is the place of the node that it repeats. -/
inductive Item
  | event (event : Event)
  | alias (place : Nat)
  deriving DecidableEq, Repr

structure Document where
  items : List Item
  /-- What comes of reading on after the last item. -/
  failure : Option LoadError
  /-- Another document follows. -/
  more : Bool

/-- The items up to the end of the document, with the places of the anchors so far. -/
def loadItems (failure : Option LoadError) (anchors : List (String × Nat)) (place : Nat) :
    List Event → Document
  | [] => ⟨[], failure, false⟩
  | e :: rest =>
    match e.kind with
    | .streamStart | .documentStart => loadItems failure anchors place rest
    | .streamEnd => ⟨[], none, false⟩
    | .documentEnd => ⟨[], none, !(rest.head?.any fun e => e.kind == .streamEnd)⟩
    | .alias name =>
      match anchors.lookup name with
      | none => ⟨[], some (.unknownAnchor e.mark), false⟩
      | some i =>
        let d := loadItems failure anchors (place + 1) rest
        { d with items := .alias i :: d.items }
    | _ =>
      let anchors := match e.anchor with
        | none => anchors
        | some name => (name, place) :: anchors
      let d := loadItems failure anchors (place + 1) rest
      { d with items := .event e :: d.items }

def load (text : String) : Document :=
  let (es, error) := events text
  loadItems (error.map .malformed) [] 0 es

/-! ### Reading -/

/-- Reads a value off the items; the path leads to it. -/
abbrev Reading (α : Type) := String → List Item → Except LoadError (α × List Item)

namespace Document

variable {α : Type} (d : Document)

def endOfItems : LoadError := d.failure.getD .endOfStream

/-- The next event, through aliases; `fuel` bounds how many follow each other. -/
def peek (items : List Item) : Nat → Except LoadError Event
  | 0 => .error .endOfStream
  | fuel + 1 =>
    match items with
    | [] => .error d.endOfItems
    | .event e :: _ => .ok e
    | .alias place :: _ => peek (d.items.drop place) fuel

def depth : Nat := d.items.length + 1

/-- What follows the next node. -/
def skipNode (nested : Nat) : List Item → Except LoadError (List Item)
  | [] => .error d.endOfItems
  | .alias _ :: rest => if nested == 0 then .ok rest else skipNode nested rest
  | .event e :: rest =>
    match e.kind with
    | .sequenceStart | .mappingStart => skipNode (nested + 1) rest
    | .sequenceEnd | .mappingEnd => if nested ≤ 1 then .ok rest else skipNode (nested - 1) rest
    | _ => if nested == 0 then .ok rest else skipNode nested rest

def invalidType (found expected : String) : String :=
  "invalid type: " ++ found ++ ", expected " ++ expected

def invalidText (text expected : String) : String :=
  "invalid value: string " ++ debugText text ++ ", expected " ++ expected

/-- The tags that say what a scalar has to be: its reading and its name. -/
def coreTags : List (String × (String → Option Scalar) × String) :=
  [("tag:yaml.org,2002:bool", fun t => (Scalar.bool? t).map .bool, "a boolean"),
    ("tag:yaml.org,2002:int", fun t => (Scalar.int? t).map .integer, "an integer"),
    ("tag:yaml.org,2002:float", fun t => (Scalar.float? t).map .floating, "a float"),
    ("tag:yaml.org,2002:null", fun t => if Scalar.isNull t then some .null else none, "null")]

/-- Why a scalar does not fit where something else is expected. -/
def scalarFault (text : String) (plain : Bool) (tag : Option String) (expected : String) :
    String :=
  match tag.bind fun t => coreTags.lookup t with
  | some (reading, name) =>
    match reading text with
    | some s => invalidType s.text expected
    | none => invalidText text name
  | none =>
    let own := tag.all (·.startsWith "!")
    invalidType (if plain && own then Scalar.ofPlain text else .string text).text expected

def fault (e : Event) (expected : String) : String :=
  match e.kind with
  | .scalar text plain => scalarFault text plain e.tag expected
  | .sequenceStart => invalidType "sequence" expected
  | _ => invalidType "map" expected

def wrongType (e : Event) (expected path : String) : LoadError :=
  .unfit (fault e expected) e.mark path

/-- The text of a scalar, whatever else it could be taken for. -/
def text (expected : String) : Reading String := fun path items => do
  let e ← d.peek items d.depth
  match e.kind with
  | .scalar text _ => return (text, items.drop 1)
  | _ => throw (wrongType e expected path)

/-- A value that may be left out. -/
def isLeftOut (e : Event) : Bool := e.kind == .scalar "" true

/-- The texts of a sequence; `index` counts those before. -/
def textsFrom (path : String) (index : Nat) :
    Nat → List Item → Except LoadError (List String × List Item)
  | 0, _ => .error d.endOfItems
  | fuel + 1, items => do
    match items with
    | [] => throw d.endOfItems
    | .event ⟨.sequenceEnd, _, _, _⟩ :: rest => return ([], rest)
    | items =>
      let (first, items) ← d.text "a string" (path ++ "[" ++ toString index ++ "]") items
      let (others, items) ← textsFrom path (index + 1) fuel items
      return (first :: others, items)

/-- The items of the next node, where they stand. -/
def target (items : List Item) : Nat → List Item
  | 0 => items
  | fuel + 1 =>
    match items with
    | .alias place :: _ => target (d.items.drop place) fuel
    | items => items

/-- A sequence of texts; nothing at all stands for none. -/
def texts : Reading (List String) := fun path items => do
  let e ← d.peek items d.depth
  match e.kind with
  | .sequenceStart =>
    let inside := d.target items d.depth
    let (texts, after) ← d.textsFrom path 0 d.depth (inside.drop 1)
    match items with
    | .alias _ :: rest => return (texts, rest)
    | _ => return (texts, after)
  | _ =>
    if isLeftOut e then return ([], items.drop 1)
    throw (wrongType e "a sequence" path)

/-- The word of a tag of one's own; a mark alone is a word too. -/
def ownTag? (e : Event) : Option String := do
  let tag ← e.tag
  match tag.toList with
  | '!' :: rest => some (if rest.isEmpty then tag else String.ofList rest)
  | _ => none

def unknownVariant (known : List (String × α)) (name : String) : String :=
  "unknown variant " ++ ticked name ++ ", expected one of " ++
    ", ".intercalate (known.map fun k => ticked k.1)

/-- One of the known words, as a scalar or as the tag of nothing. -/
def variant (known : List (String × α)) : Reading α := fun path items => do
  let e ← d.peek items d.depth
  match e.kind, ownTag? e with
  | .scalar text _, none =>
    match known.lookup text with
    | some a => return (a, items.drop 1)
    | none => throw (.unfit (unknownVariant known text) e.mark path)
  | _, none => throw (wrongType e "a YAML tag starting with '!'" path)
  | kind, some name =>
    match known.lookup name with
    | none => throw (.unknownTag (unknownVariant known name))
    | some a =>
      match kind with
      | .scalar text _ =>
        if text.isEmpty || Scalar.isNull text then return (a, items.drop 1)
        throw (.unfit (invalidText text "null") e.mark path)
      | _ => throw (wrongType e "unit" path)

end Document
end SqlLineage.Yaml
