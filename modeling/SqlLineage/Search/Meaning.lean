import SqlLineage.Search.Named
import SqlLineage.Search.Reader

/-! What written patterns match: flags decide on letters, dots and lines, and where characters are
single octets nothing may match part of a character. -/

namespace SqlLineage.Search

structure Flags where
  ignoreCase : Bool := false
  multiLine : Bool := false
  dotAll : Bool := false
  returns : Bool := false
  /-- Characters of all scripts count, not only those of one octet. -/
  unicode : Bool := true

def Flags.change (f : Flags) (letter : Char) (on : Bool) : Flags :=
  match letter with
  | 'i' => { f with ignoreCase := on }
  | 'm' => { f with multiLine := on }
  | 's' => { f with dotAll := on }
  | 'R' => { f with returns := on }
  | 'u' => { f with unicode := on }
  | _ => f

def Flags.changeAll (f : Flags) (changes : FlagChanges) : Flags :=
  changes.foldl (fun f change => f.change change.1 change.2) f

namespace CharSet

def asciiRanges : List (String × List Text.CodeRange) :=
  [("alnum", [(0x30, 0x39), (0x41, 0x5A), (0x61, 0x7A)]), ("alpha", [(0x41, 0x5A), (0x61, 0x7A)]),
    ("ascii", [(0, 0x7F)]), ("blank", [(9, 9), (0x20, 0x20)]), ("cntrl", [(0, 0x1F), (0x7F, 0x7F)]),
    ("digit", [(0x30, 0x39)]), ("graph", [(0x21, 0x7E)]), ("lower", [(0x61, 0x7A)]),
    ("print", [(0x20, 0x7E)]),
    ("punct", [(0x21, 0x2F), (0x3A, 0x40), (0x5B, 0x60), (0x7B, 0x7E)]),
    ("space", [(9, 0xD), (0x20, 0x20)]), ("upper", [(0x41, 0x5A)]),
    ("word", [(0x30, 0x39), (0x41, 0x5A), (0x5F, 0x5F), (0x61, 0x7A)]),
    ("xdigit", [(0x30, 0x39), (0x41, 0x46), (0x61, 0x66)])]

def ascii (name : String) : CharSet := ofRanges ((asciiRanges.lookup name).getD [])

/-- A property of characters, or what is left of it among the characters of one octet. -/
def ofProperty (unicode : Bool) (p : Property) : CharSet :=
  if unicode then property p
  else match p with
    | .category _ => ascii "digit"
    | .blank => ascii "space"
    | .alphabetic => ascii "alpha"
    | .word => ascii "word"

def negateIf (negated : Bool) (s : CharSet) : CharSet := if negated then complement s else s

def foldIf (f : Flags) (s : CharSet) : CharSet :=
  if f.ignoreCase then folded (!f.unicode) s else s

end CharSet

open CharSet

abbrev Meaning := StateT Flags (Except Fault)

namespace Meaning

def fail {α : Type} (cause : Cause) (span : Span) : Meaning α := throw (.located cause span none)

/-- A set under the flags; a complement would hold parts of characters where octets count. -/
def finished (negated : Bool) (span : Span) (s : CharSet) : Meaning CharSet := do
  let f ← get
  if negated && !f.unicode then fail .invalidUtf8 span
  return negateIf negated (foldIf f s)

/-- The set of a property by its name. -/
def named (name : String) (value : Option String) (span : Span) : Meaning CharSet := do
  if !(← get).unicode then fail .unicodeNotAllowed span
  match value with
  | none =>
    match CharSet.named? name with
    | some s => return s
    | none => fail .propertyUnknown span
  | some value =>
    if !isCategoryName name then fail .propertyUnknown span
    match CharSet.ofCategory? value with
    | some s => return s
    | none => fail .valueUnknown span

/-- A character that is written as an octet must be one. -/
def checkOctet (c : Char) (octet : Bool) (span : Span) : Meaning Unit := do
  if !(← get).unicode && octet && 0x80 ≤ c.toNat then fail .invalidUtf8 span

/-- A property under the flags. -/
def kind (p : Property) (negated : Bool) (span : Span) : Meaning CharSet := do
  let f ← get
  if negated && !f.unicode then fail .invalidUtf8 span
  return negateIf negated (ofProperty f.unicode p)

/-! ### Classes -/

/-- One character of a class. -/
def classLiteral (p : Located) : Meaning Char := do
  match p.part with
  | .literal c octet =>
    checkOctet c octet p.span
    if !(← get).unicode && 0x80 ≤ c.toNat then fail .unicodeNotAllowed p.span
    return c
  | _ => fail .classRangeLiteral p.span

def ofClass : ClassTree → Meaning CharSet
  | .nothing => return .nothing
  | .part p =>
    match p.part with
    | .kind k negated => kind k negated p.span
    | .named name value negated => do
      finished negated p.span (← named name value p.span)
    | _ => return single (← classLiteral p)
  | .range first last => do
    let a ← classLiteral first
    let b ← classLiteral last
    return .range a.toNat b.toNat
  | .ascii name negated span => finished negated span (.ascii name)
  | .bracket negated span inner => do finished negated span (← ofClass inner)
  | .union a b => return .union (← ofClass a) (← ofClass b)
  | .operation op a b => do
    let a ← ofClass a
    let b ← ofClass b
    let f ← get
    let a := foldIf f a
    let b := foldIf f b
    return match op with
      | .intersection => .inter a b
      | .difference => .diff a b
      | .symmetricDifference => .symmetricDiff a b

/-! ### Patterns -/

def assertion (f : Flags) : Assertion → Look
  | .lineStart => if f.multiLine then .lineStart f.returns else .textStart
  | .lineEnd => if f.multiLine then .lineEnd f.returns else .textEnd
  | .textStart => .textStart
  | .textEnd => .textEnd
  | .edge e => .edge e (ofProperty f.unicode .word)

def ofPart (p : Located) : Meaning Pattern := do
  let f ← get
  match p.part with
  | .literal c octet =>
    checkOctet c octet p.span
    return .char (foldIf f (single c))
  | .dot =>
    if !f.unicode then fail .invalidUtf8 p.span
    let breaks := if f.dotAll then CharSet.nothing
      else if f.returns then .union (single '\n') (single '\r')
      else single '\n'
    return .char (complement breaks)
  | .assertion a => return .look (assertion f a)
  | .kind k negated => return .char (← kind k negated p.span)
  | .named name value negated =>
    return .char (← finished negated p.span (← named name value p.span))

/-- Flags hold to the end of the group that sets them. -/
def ofTree : Tree → Meaning Pattern
  | .empty => return .empty
  | .part p => ofPart p
  | .flags changes => do
    modify (·.changeAll changes)
    return .empty
  | .charClass c => return .char (← ofClass c)
  | .group changes inner => do
    let before ← get
    modify (·.changeAll changes)
    let p ← ofTree inner
    set before
    return p
  | .repetition least most inner => return .repetition least most (← ofTree inner)
  | .sequence a b => return .sequence (← ofTree a) (← ofTree b)
  | .choice a b => return .choice (← ofTree a) (← ofTree b)

end Meaning

namespace Pattern

/-- A character of a pattern takes at least so many octets, and a pattern at most so many. -/
def characterCost : Nat := 32

def costLimit : Nat := 10485760

/-- The pattern that a text describes. -/
def parse (text : String) : Except Fault Pattern := do
  let tree ← Tree.read text
  let p ← (Meaning.ofTree tree).run' {}
  if costLimit < characterCost * p.size then throw .tooLarge
  return p

end Pattern
end SqlLineage.Search
