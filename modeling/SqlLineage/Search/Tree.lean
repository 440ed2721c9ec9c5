import SqlLineage.Search.Fault
import SqlLineage.Search.Pattern

/-! Patterns as they are written: the parts keep their places, and what they match hangs on flags
that may change on the way. -/

namespace SqlLineage.Search

/-- A place as it is written. -/
inductive Assertion
  | lineStart
  | lineEnd
  | textStart
  | textEnd
  | edge (edge : Edge)
  deriving DecidableEq, Repr

/-- One character or place. -/
inductive Part
  /-- `octet` if the character is written as two hexadecimal digits. -/
  | literal (c : Char) (octet : Bool)
  | dot
  | assertion (a : Assertion)
  | kind (p : Property) (negated : Bool)
  /-- A property by its name, and its value if that is written. -/
  | named (name : String) (value : Option String) (negated : Bool)
  deriving DecidableEq, Repr

structure Located where
  part : Part
  span : Span
  deriving DecidableEq, Repr

inductive SetOperation
  | intersection
  | difference
  | symmetricDifference
  deriving DecidableEq, Repr

/-- A character class in brackets. -/
inductive ClassTree
  | nothing
  | part (p : Located)
  | range (first last : Located)
  | ascii (name : String) (negated : Bool) (span : Span)
  | bracket (negated : Bool) (span : Span) (inner : ClassTree)
  | union (a b : ClassTree)
  | operation (op : SetOperation) (a b : ClassTree)
  deriving DecidableEq, Repr

/-- Flags that are set or cleared. -/
abbrev FlagChanges := List (Char × Bool)

inductive Tree
  | empty
  | part (p : Located)
  | flags (changes : FlagChanges)
  | charClass (c : ClassTree)
  | group (changes : FlagChanges) (inner : Tree)
  | repetition (least : Nat) (most : Option Nat) (inner : Tree)
  | sequence (a b : Tree)
  | choice (a b : Tree)
  deriving DecidableEq, Repr

/-- There is something that can be repeated. -/
def Tree.isRepeatable : Tree → Bool
  | empty | flags _ => false
  | _ => true

/-- Parts one after the other, the last of them first. -/
def Tree.ofParts (parts : List Tree) : Tree :=
  parts.foldl (fun after part =>
    match after with
    | empty => part
    | _ => sequence part after) empty

/-- Branches, the last of them first. -/
def Tree.ofBranches (last : Tree) (others : List Tree) : Tree :=
  others.foldl (fun after branch => choice branch after) last

end SqlLineage.Search
