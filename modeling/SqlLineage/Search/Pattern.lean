import SqlLineage.Search.CharSet

/-! Patterns of text, and whether one occurs in a text. A set of places in the text is a number
whose bits are the places, so that all ways to match are followed at once. -/

namespace SqlLineage.Search

/-- How a place lies to the words around it. -/
inductive Edge
  | boundary
  | noBoundary
  | wordStart
  | wordEnd
  /-- No word comes before. -/
  | startHalf
  /-- No word comes after. -/
  | endHalf
  deriving DecidableEq, Repr

def Edge.holds (before after : Bool) : Edge → Bool
  | boundary => before != after
  | noBoundary => before == after
  | wordStart => !before && after
  | wordEnd => before && !after
  | startHalf => !before
  | endHalf => !after

/-- What must hold of a place between two characters. -/
inductive Look
  | textStart
  | textEnd
  /-- `returns` if a carriage return ends a line too. -/
  | lineStart (returns : Bool)
  | lineEnd (returns : Bool)
  | edge (edge : Edge) (word : CharSet)
  deriving DecidableEq, Repr

def Look.holds (before after : Option Char) : Look → Bool
  | textStart => before.isNone
  | textEnd => after.isNone
  | lineStart returns =>
    before.all fun c => c == '\n' || (returns && c == '\r' && after != some '\n')
  | lineEnd returns =>
    after.all fun c =>
      if returns then c == '\r' || (c == '\n' && before != some '\r') else c == '\n'
  | edge e word => e.holds (before.any word.contains) (after.any word.contains)

inductive Pattern
  | empty
  | char (set : CharSet)
  | look (look : Look)
  | sequence (a b : Pattern)
  | choice (a b : Pattern)
  /-- At least and at most so many times. -/
  | repetition (least : Nat) (most : Option Nat) (p : Pattern)
  deriving DecidableEq, Repr

/-- A pattern over one text, with the places where its parts may be. -/
inductive Plan
  | advance (places : Nat)
  | stay (places : Nat)
  | sequence (a b : Plan)
  | choice (a b : Plan)
  | repetition (least : Nat) (most : Option Nat) (p : Plan)

/-- The set of the places of a list that have the property. -/
def placesOf {α : Type} (p : α → Bool) (xs : List α) : Nat :=
  xs.foldr (fun x places => 2 * places + (p x).toNat) 0

/-- What stands before and after each place. -/
def surroundings (text : List Char) : List (Option Char × Option Char) :=
  (none :: text.map some).zip (text.map some ++ [none])

def Pattern.plan (text : List Char) : Pattern → Plan
  | empty => .stay (Nat.pow 2 (text.length + 1) - 1)
  | char set => .advance (placesOf set.contains text)
  | look l => .stay (placesOf (fun around => l.holds around.1 around.2) (surroundings text))
  | sequence a b => .sequence (a.plan text) (b.plan text)
  | choice a b => .choice (a.plan text) (b.plan text)
  | repetition least most p => .repetition least most (p.plan text)

namespace Plan

def times (step : Nat → Nat) : Nat → Nat → Nat
  | 0, places => places
  | n + 1, places => times step n (step places)

/-- Up to so many times; more change nothing once all places are known. -/
def upTo (step : Nat → Nat) : Nat → Nat → Nat
  | 0, places => places
  | n + 1, places =>
    let more := places ||| step places
    if more == places then places else upTo step n more

/-- Where matches end that start at one of the places. A match in `bound` or more parts has an
empty part among them, so `bound` times are as good as more. -/
def ends (bound : Nat) : Plan → Nat → Nat
  | advance allowed, places => 2 * (places &&& allowed)
  | stay allowed, places => places &&& allowed
  | sequence a b, places => b.ends bound (a.ends bound places)
  | choice a b, places => a.ends bound places ||| b.ends bound places
  | repetition least most p, places =>
    let further := match most with
      | none => bound
      | some n => min (n - least) bound
    upTo (p.ends bound) further (times (p.ends bound) (min least bound) places)

end Plan

/-- The pattern matches some part of the text. -/
def Pattern.occursIn (p : Pattern) (text : List Char) : Bool :=
  let bound := text.length + 1
  (p.plan text).ends bound (Nat.pow 2 bound - 1) != 0

/-- How many characters the pattern spells out. -/
def Pattern.size : Pattern → Nat
  | empty | look _ => 0
  | char _ => 1
  | sequence a b | choice a b => a.size + b.size
  | repetition least most p => max least (most.getD 1) * p.size

end SqlLineage.Search
