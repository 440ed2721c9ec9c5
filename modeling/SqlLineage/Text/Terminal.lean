/-! What a terminal shows of a text: control characters and the sequences that they start are left
out. -/

namespace SqlLineage.Text

/-- What a reader of terminal text is in the middle of. -/
inductive Sequence
  | none
  | escape
  /-- Marks before the letter that ends a short sequence. -/
  | marks
  /-- Parameters before the letter that ends a sequence. -/
  | parameters
  /-- A string that only another escape ends, or a bell if `bell`. -/
  | string (bell : Bool)
  deriving DecidableEq, Repr

def isControl (c : Char) : Bool := c.toNat < 0x20

/-- Controls that move on in the text. -/
def isSpacing (c : Char) : Bool := c == '\t' || c == '\n' || c == '\x0c' || c == '\r'

/-- What a character after an escape starts. -/
def afterEscape (c : Char) : Sequence :=
  if c.toNat < 0x30 then .marks
  else if c == '[' then .parameters
  else if c == ']' then .string true
  else if c == 'P' || c == 'X' || c == '^' || c == '_' then .string false
  else .none

/-- The sequence goes on, or ends with a character from `last` on. -/
def endsFrom (last : Nat) (current : Sequence) (c : Char) : Sequence :=
  if last ≤ c.toNat && c.toNat < 0x7F then .none else current

/-- What comes of a character, and whether it is shown. -/
def Sequence.next (s : Sequence) (c : Char) : Sequence × Bool :=
  if c == '\x1b' then (.escape, false)
  else if c == '\x18' || c == '\x1a' then (.none, false)
  else match s with
    | .string bell => (if bell && c == '\x07' then .none else s, false)
    | _ =>
      if isControl c then if isSpacing c then (.none, true) else (s, false)
      else match s with
        | .none => (.none, c != '\x7f')
        | .escape => (if c.toNat < 0x7F then afterEscape c else s, false)
        | .marks => (endsFrom 0x30 s c, false)
        | _ => (endsFrom 0x40 s c, false)

def shownFrom (s : Sequence) : List Char → List Char
  | [] => []
  | c :: rest =>
    let (s, shown) := s.next c
    if shown then c :: shownFrom s rest else shownFrom s rest

/-- The text without what a terminal does not show. -/
def shownText (s : String) : String := String.ofList (shownFrom .none s.toList)

end SqlLineage.Text
