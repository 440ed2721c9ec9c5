import SqlLineage.Text.Blank
import SqlLineage.Text.CaseVariant
import SqlLineage.Text.WordCharacter

/-! Sets of characters, and the characters that are in them. -/

namespace SqlLineage.Search

/-- Properties of characters of all scripts. -/
inductive Property
  | category (c : Text.Category)
  | alphabetic
  | blank
  | word
  deriving DecidableEq, Repr

def Property.holds : Property → Char → Bool
  | category k, c => Text.categoryOf c == k
  | alphabetic, c => Text.isAlphabetic c
  | blank, c => Text.isBlank c
  | word, c => Text.isWordCharacter c

inductive CharSet
  /-- From one code point to another. -/
  | range (first last : Nat)
  | property (p : Property)
  | union (a b : CharSet)
  | inter (a b : CharSet)
  | complement (a : CharSet)
  /-- All cases of the characters of a set; `ascii` if other letters have none. -/
  | folded (ascii : Bool) (a : CharSet)
  deriving DecidableEq, Repr

namespace CharSet

def variants (ascii : Bool) (c : Char) : List Char :=
  if ascii then [c, c.toLower, c.toUpper] else Text.caseVariants c

def contains : CharSet → Char → Bool
  | range first last, c => first ≤ c.toNat && c.toNat ≤ last
  | property p, c => p.holds c
  | union a b, c => a.contains c || b.contains c
  | inter a b, c => a.contains c && b.contains c
  | complement a, c => !a.contains c
  | folded ascii a, c => (variants ascii c).any fun d => a.contains d

def categories (cs : List Text.Category) : CharSet :=
  cs.foldr (fun c s => union (property (.category c)) s) (range 1 0)

def single (c : Char) : CharSet := range c.toNat c.toNat

def nothing : CharSet := range 1 0

def ofRanges (ranges : List Text.CodeRange) : CharSet :=
  ranges.foldr (fun r s => union (range r.1 r.2) s) nothing

def diff (a b : CharSet) : CharSet := inter a (complement b)

def symmetricDiff (a b : CharSet) : CharSet := union (diff a b) (diff b a)

end CharSet
end SqlLineage.Search
