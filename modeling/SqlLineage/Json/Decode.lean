import SqlLineage.Catalog
import SqlLineage.Json.Writer
import SqlLineage.Text.Message

/-! From JSON values to the values they describe, and what is wrong with those that describe
none. -/

namespace SqlLineage.Json

open Text (debugText ticked)

/-- What a JSON value is, as far as a message names it. -/
inductive Found
  | null
  | boolean (value : Bool)
  | integer (value : Int)
  | floating (value : Number.Binary)
  | string (value : String)
  | sequence
  | map
  deriving DecidableEq, Repr

/-- The greatest count that can be given. -/
def countLimit : Int := 18446744073709551615

def found : Json → Found
  | .null => .null
  | .bool b => .boolean b
  | .integer i => .integer i
  | .floating x => .floating x
  | .string s => .string s
  | .array _ => .sequence
  | .object _ => .map

def Found.text : Found → String
  | null => "null"
  | boolean b => "boolean " ++ ticked (toString b)
  | integer i => "integer " ++ ticked (toString i)
  | floating x => "floating point " ++ ticked (String.ofList (floatingText x))
  | string s => "string " ++ debugText s
  | sequence => "sequence"
  | map => "map"

inductive DecodeError
  | invalidType (found : Found) (expected : String)
  | invalidValue (found : Found) (expected : String)
  | invalidLength (length : Nat) (expected : String)
  | missingField (name : String)
  | unknownVariant (name : String) (known : List String)
  deriving DecidableEq, Repr

def DecodeError.message : DecodeError → String
  | invalidType found expected => "invalid type: " ++ found.text ++ ", expected " ++ expected
  | invalidValue found expected => "invalid value: " ++ found.text ++ ", expected " ++ expected
  | invalidLength n expected => "invalid length " ++ toString n ++ ", expected " ++ expected
  | missingField name => "missing field " ++ ticked name
  | unknownVariant name known =>
    "unknown variant " ++ ticked name ++ ", expected one of " ++
      ", ".intercalate (known.map ticked)

abbrev Decoder (α : Type) := Json → Except DecodeError α

variable {α : Type}

def wrongType (j : Json) (expected : String) : Except DecodeError α :=
  .error (.invalidType j.found expected)

def asString : Decoder String
  | .string s => .ok s
  | j => wrongType j "a string"

def asBool : Decoder Bool
  | .bool b => .ok b
  | j => wrongType j "a boolean"

def asCount : Decoder Nat
  | j@(.integer i) =>
    if 0 ≤ i && i ≤ countLimit then .ok i.toNat
    else .error (.invalidValue j.found "usize")
  | j => wrongType j "usize"

def asOption (decode : Decoder α) : Decoder (Option α)
  | .null => .ok none
  | j => some <$> decode j

def asList (decode : Decoder α) : Decoder (List α)
  | .array items => items.mapM decode
  | j => wrongType j "a sequence"

/-- Entries are looked at in the order of their names. -/
def asCatalog (decode : Decoder α) : Decoder (Catalog α)
  | .object members =>
    (Catalog.ofList members).mapM fun (key, value) => return (key, ← decode value)
  | j => wrongType j "a map"

def tooLong (items : List Json) : Except DecodeError α :=
  .error (.invalidLength items.length "fewer elements in array")

/-- Two values in an array. -/
def asPair (decode : Decoder α) : Decoder (α × α)
  | .array [a, b] => return (← decode a, ← decode b)
  | .array [] => .error (.invalidLength 0 "a tuple of size 2")
  | .array [a] => do
    let _ ← decode a
    .error (.invalidLength 1 "a tuple of size 2")
  | .array (a :: b :: rest) => do
    let _ ← decode a
    let _ ← decode b
    tooLong (a :: b :: rest)
  | j => wrongType j "a tuple of size 2"

def variantOf (known : List (String × α)) (name : String) : Except DecodeError α :=
  match known.lookup name with
  | some a => .ok a
  | none => .error (.unknownVariant name (known.map Prod.fst))

/-- One of the known words, alone or as the name of a single empty member. -/
def asVariant (known : List (String × α)) : Decoder α
  | .string name => variantOf known name
  | .object members =>
    match Catalog.ofList members with
    | [(name, value)] => do
      let a ← variantOf known name
      match value with
      | .null => .ok a
      | j => wrongType j "unit"
    | _ => .error (.invalidValue .map "map with a single key")
  | j => wrongType j "string or map"

/-- A record: its fields in order, each with a test of its value. -/
structure Shape where
  name : String
  fields : List (String × Decoder Unit)
  /-- How many of the fields an array has to give. -/
  inArray : Nat

def checked (decode : Decoder α) : Decoder Unit := fun j => do
  let _ ← decode j

/-- Tests the values of the fields, and passes over what is no field. -/
def checkMembers (fields : List (String × Decoder Unit)) :
    List (String × Json) → Except DecodeError Unit
  | [] => .ok ()
  | (key, value) :: rest => do
    match fields.lookup key with
    | none => pure ()
    | some check => check value
    checkMembers fields rest

/-- The values of the fields by name. An object may give them in any order, and they are tested in
the order of the names; an array gives them in the order of the record. -/
def membersOf (shape : Shape) : Json → Except DecodeError (List (String × Json))
  | .object members => do
    let given := Catalog.ofList members
    checkMembers shape.fields given
    return given
  | .array items => do
    let given := (shape.fields.map Prod.fst).zip items
    checkMembers shape.fields given
    if items.length < shape.inArray then
      .error (.invalidLength items.length
        ("struct " ++ shape.name ++ " with " ++ toString shape.fields.length ++ " elements"))
    else if shape.fields.length < items.length then tooLong items
    else return given
  | j => wrongType j ("struct " ++ shape.name)

def required (given : List (String × Json)) (name : String) (decode : Decoder α) :
    Except DecodeError α :=
  match given.lookup name with
  | some j => decode j
  | none => .error (.missingField name)

def defaulted (given : List (String × Json)) (name : String) (value : α) (decode : Decoder α) :
    Except DecodeError α :=
  match given.lookup name with
  | some j => decode j
  | none => .ok value

end SqlLineage.Json
