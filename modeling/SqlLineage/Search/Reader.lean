import SqlLineage.Search.Tree
import SqlLineage.Text.Numeric

/-! Reading written patterns. -/

namespace SqlLineage.Search

structure Cursor where
  rest : List Char
  mark : Mark := {}
  /-- Blanks and comments between the parts do not count. -/
  loose : Bool := false
  /-- Names of groups so far. -/
  names : List (String × Span) := []

abbrev Reading := StateT Cursor (Except Fault)

namespace Reading

/-! ### Characters -/

def current : Reading (Option Char) := return (← get).rest.head?

def mark : Reading Mark := return (← get).mark

def atEnd : Reading Bool := return (← get).rest.isEmpty

def nextIs (c : Char) : Reading Bool := return (← current) == some c

def fail {α : Type} (cause : Cause) (start stop : Mark) : Reading α :=
  throw (.located cause ⟨start, stop⟩ none)

/-- The span of the next character. -/
def here : Reading Span := do
  let s ← get
  return ⟨s.mark, s.rest.head?.elim s.mark s.mark.after⟩

def failHere {α : Type} (cause : Cause) : Reading α := do
  let span ← here
  fail cause span.start span.stop

def failBetween {α : Type} (cause : Cause) : Reading α := do
  let m ← mark
  fail cause m m

/-- Goes on; whether a character follows. -/
def advance : Reading Bool := do
  let s ← get
  match s.rest with
  | [] => return false
  | c :: rest =>
    set { s with rest := rest, mark := s.mark.after c }
    return !rest.isEmpty

/-- What is left after blanks and comments. -/
def afterBlanks (comment : Bool) (mark : Mark) : List Char → Mark × List Char
  | [] => (mark, [])
  | c :: cs =>
    if comment then afterBlanks (c != '\n') (mark.after c) cs
    else if Text.isBlank c then afterBlanks false (mark.after c) cs
    else if c == '#' then afterBlanks true (mark.after c) cs
    else (mark, c :: cs)

def skipBlanks : Reading Unit := do
  let s ← get
  if s.loose then
    let (mark, rest) := afterBlanks false s.mark s.rest
    set { s with rest := rest, mark := mark }

/-- Goes on to the next character that counts; whether there is one. -/
def advanceLoosely : Reading Bool := do
  if !(← advance) then return false
  skipBlanks
  return !(← atEnd)

def skipAll : List Char → Reading Unit
  | [] => return ()
  | _ :: cs => do
    let _ ← advance
    skipAll cs

/-- Reads the characters if they are next. -/
def take (text : String) : Reading Bool := do
  if text.toList.isPrefixOf (← get).rest then
    skipAll text.toList
    return true
  else return false

/-- The character that counts after the next one. -/
def peekLoosely : Reading (Option Char) := do
  let s ← get
  let after := s.rest.drop 1
  if !s.loose then return after.head?
  match after.dropWhile Text.isBlank with
  | '#' :: comment => return (comment.dropWhile Text.isBlank).head?
  | cs => return cs.head?

def bound : Reading Nat := return (← get).rest.length + 1

/-- Characters while `p` holds of them. -/
def gather (p : Char → Bool) (found : List Char) : Nat → Reading (List Char)
  | 0 => return found.reverse
  | fuel + 1 => do
    match ← current with
    | some c =>
      if !p c then return found.reverse
      let _ ← advanceLoosely
      gather p (c :: found) fuel
    | none => return found.reverse

/-! ### Escapes -/

def hexDigit? (c : Char) : Option Nat :=
  if c.isDigit then some (c.toNat - 48)
  else if 'a' ≤ c && c ≤ 'f' then some (c.toNat - 87)
  else if 'A' ≤ c && c ≤ 'F' then some (c.toNat - 55)
  else none

/-- The character with this number. -/
def scalar (digits : List Char) (start stop : Mark) : Reading Char := do
  let n := digits.foldl (fun n c => 16 * n + (hexDigit? c).getD 0) 0
  if n.isValidChar then return Char.ofNat n
  fail .hexInvalid start stop

/-- So many digits; the first is next. -/
def hexDigits (found : List Char) : Nat → Reading (List Char)
  | 0 => return found.reverse
  | count + 1 => do
    let c := (← current).getD ' '
    if (hexDigit? c).isNone then failHere .hexDigit
    let more ← advanceLoosely
    if count != 0 && !more then failBetween .escapeEnd
    hexDigits (c :: found) count

def bracedHexDigits (found : List Char) : Nat → Reading (List Char)
  | 0 => return found.reverse
  | fuel + 1 => do
    if !(← advanceLoosely) || (← nextIs '\x7d') then return found.reverse
    let c := (← current).getD ' '
    if (hexDigit? c).isNone then failHere .hexDigit
    bracedHexDigits (c :: found) fuel

/-- A character by its number: two, four or eight digits, or any number of them in braces. -/
def hexEscape (letter : Char) : Reading Part := do
  if !(← advanceLoosely) then failBetween .escapeEnd
  if ← nextIs '\x7b' then
    let brace ← here
    let digits ← bracedHexDigits [] (← bound)
    if ← atEnd then fail .escapeEnd brace.start (← mark)
    let stop ← mark
    let _ ← advanceLoosely
    if digits.isEmpty then fail .hexEmpty brace.start (← mark)
    return .literal (← scalar digits brace.stop stop) false
  else
    let start ← mark
    let digits ← hexDigits [] (if letter == 'x' then 2 else if letter == 'u' then 4 else 8)
    return .literal (← scalar digits start (← mark)) (letter == 'x')

/-- A part of a text before a mark, and what follows the mark. -/
def cutAt? (separator : List Char) : List Char → Option (List Char × List Char)
  | [] => none
  | c :: cs =>
    if separator.isPrefixOf (c :: cs) then some ([], (c :: cs).drop separator.length)
    else (cutAt? separator cs).map fun cut => (c :: cut.1, cut.2)

/-- A property, maybe with a value. -/
def namedPart (name : List Char) (negated : Bool) : Part :=
  let valued (cut : List Char × List Char) (negated : Bool) : Part :=
    .named (String.ofList cut.1) (some (String.ofList cut.2)) negated
  match cutAt? ['!', '='] name, cutAt? [':'] name, cutAt? ['='] name with
  | some cut, _, _ => valued cut (!negated)
  | none, some cut, _ => valued cut negated
  | none, none, some cut => valued cut negated
  | none, none, none => .named (String.ofList name) none negated

def propertyName (found : List Char) : Nat → Reading (List Char)
  | 0 => return found.reverse
  | fuel + 1 => do
    if !(← advanceLoosely) || (← nextIs '\x7d') then return found.reverse
    propertyName ((← current).getD ' ' :: found) fuel

def propertyEscape (negated : Bool) : Reading Part := do
  if !(← advanceLoosely) then failBetween .escapeEnd
  let c := (← current).getD ' '
  if c == '\x7b' then
    let name ← propertyName [] (← bound)
    if ← atEnd then failBetween .escapeEnd
    let _ ← advance
    return namedPart name negated
  if c == '\\' then failHere .propertyInvalid
  let _ ← advanceLoosely
  return .named (String.singleton c) none negated

def isMetaCharacter (c : Char) : Bool :=
  ("\\.+*?()|[]\x7b\x7d^$#&-~").toList.contains c

/-- Characters that a backslash leaves as they are. -/
def isEscapable (c : Char) : Bool :=
  isMetaCharacter c || (c.toNat < 0x80 && !c.isAlphanum && c != '<' && c != '>')

/-- Letters for characters that are hard to write. -/
def controls : List (Char × Char) :=
  [('a', '\x07'), ('f', '\x0c'), ('t', '\t'), ('n', '\n'), ('r', '\r'), ('v', '\x0b')]

def assertions : List (Char × Assertion) :=
  [('A', .textStart), ('z', .textEnd), ('B', .edge .noBoundary), ('<', .edge .wordStart),
    ('>', .edge .wordEnd)]

def kinds : List (Char × Property) :=
  [('d', .category .decimalNumber), ('s', .blank), ('w', .word)]

def edges : List (String × Edge) :=
  [("start", .wordStart), ("end", .wordEnd), ("start-half", .startHalf), ("end-half", .endHalf)]

def isEdgeLetter (c : Char) : Bool := c.isAlpha || c == '-'

/-- The kind of a word boundary in braces; a count in braces is left alone. -/
def edgeName (start : Mark) : Reading Edge := do
  if !(← nextIs '\x7b') then return .boundary
  let before ← get
  if !(← advanceLoosely) then fail .edgeEnd start (← mark)
  if !(← current).any isEdgeLetter then
    set before
    return .boundary
  let inside ← mark
  let name ← gather isEdgeLetter [] (← bound)
  if !(← nextIs '\x7d') then fail .edgeUnclosed before.mark (← mark)
  let stop ← mark
  let _ ← advance
  match edges.lookup (String.ofList name) with
  | some edge => return edge
  | none => fail .edgeUnknown inside stop

/-- What follows a backslash. -/
def escape : Reading Located := do
  let start ← mark
  let located (p : Part) : Reading Located := return ⟨p, ⟨start, ← mark⟩⟩
  if !(← advance) then fail .escapeEnd start (← mark)
  let c := (← current).getD ' '
  if c.isDigit then fail .backreference start (← here).stop
  if c == 'x' || c == 'u' || c == 'U' then return ← located (← hexEscape c)
  if c == 'p' || c == 'P' then return ← located (← propertyEscape (c == 'P'))
  let _ ← advance
  match kinds.lookup c.toLower, controls.lookup c, assertions.lookup c with
  | some kind, _, _ => located (.kind kind c.isUpper)
  | none, some control, _ => located (.literal control false)
  | none, none, some a => located (.assertion a)
  | none, none, none =>
    if isEscapable c then located (.literal c false)
    else if c == 'b' then located (.assertion (.edge (← edgeName start)))
    else fail .escapeUnknown start (← mark)

/-! ### Classes -/

/-- A class in progress: what was read of it, and an operation that waits for its second side. -/
structure Level where
  span : Span
  negated : Bool
  items : ClassTree
  operation : Option (SetOperation × ClassTree) := none

def Level.add (l : Level) (item : ClassTree) : Level :=
  let items := match l.items with
    | .nothing => item
    | items => .union items item
  { l with items := items }

/-- The class so far, the operation that waits included. -/
def Level.content (l : Level) : ClassTree :=
  match l.operation with
  | none => l.items
  | some (op, first) => .operation op first l.items

def Level.operate (l : Level) (op : SetOperation) : Level :=
  ⟨l.span, l.negated, .nothing, some (op, l.content)⟩

def leadingDashes (start : Mark) (l : Level) : Nat → Reading Level
  | 0 => return l
  | fuel + 1 => do
    if !(← nextIs '-') then return l
    let item := ClassTree.part ⟨.literal '-' false, ← here⟩
    if !(← advanceLoosely) then fail .classUnclosed start start
    leadingDashes start (l.add item) fuel

/-- The opening bracket of a class, and the marks that have a meaning only there. -/
def openClass : Reading Level := do
  let start ← mark
  let onward : Reading Unit := do
    if !(← advanceLoosely) then fail .classUnclosed start (← mark)
  onward
  let negated ← nextIs '^'
  if negated then onward
  let plain : Level := ⟨⟨start, start⟩, negated, .nothing, none⟩
  let l ← leadingDashes start plain (← bound)
  let l ←
    if l.items == .nothing && (← nextIs ']') then do
      let item := ClassTree.part ⟨.literal ']' false, ← here⟩
      onward
      pure (l.add item)
    else pure l
  return { l with span := ⟨start, ← mark⟩ }

def asciiNames : List String :=
  ["alnum", "alpha", "ascii", "blank", "cntrl", "digit", "graph", "lower", "print", "punct",
    "space", "upper", "word", "xdigit"]

/-- A name between bracket and colon marks, if there is one that is known. -/
def asciiClass? : Reading (Option ClassTree) := do
  let start ← mark
  match (← get).rest with
  | '[' :: ':' :: rest =>
    let (negated, rest) := match rest with
      | '^' :: rest => (true, rest)
      | rest => (false, rest)
    let name := rest.takeWhile (· != ':')
    if !([':', ']'].isPrefixOf (rest.drop name.length)) ||
        !asciiNames.contains (String.ofList name) then return none
    skipAll (['[', ':'] ++ (if negated then ['^'] else []) ++ name ++ [':', ']'])
    return some (.ascii (String.ofList name) negated ⟨start, ← mark⟩)
  | _ => return none

def classPart : Reading Located := do
  if ← nextIs '\\' then escape
  else
    let span ← here
    let c := (← current).getD ' '
    let _ ← advance
    return ⟨.literal c false, span⟩

def unclosed {α : Type} (l : Level) : Reading α := fail .classUnclosed l.span.start l.span.stop

/-- The end of a range is a character. -/
def boundary (p : Located) : Reading Char :=
  match p.part with
  | .literal c _ => return c
  | _ => fail .classRangeLiteral p.span.start p.span.stop

/-- A character, a range of them, or a kind. -/
def classItem (l : Level) : Reading ClassTree := do
  let first ← classPart
  skipBlanks
  if ← atEnd then unclosed l
  let next ← peekLoosely
  if !(← nextIs '-') || next == some ']' || next == some '-' then
    match first.part with
    | .assertion _ | .dot => fail .classEscape first.span.start first.span.stop
    | _ => return .part first
  if !(← advanceLoosely) then unclosed l
  let last ← classPart
  let low ← boundary first
  let high ← boundary last
  if high < low then
    fail .classRange first.span.start last.span.stop
  return .range first last

def operations : List (Char × SetOperation) :=
  [('&', .intersection), ('-', .difference), ('~', .symmetricDifference)]

/-- Two of the same mark. -/
def operation? : Reading (Option SetOperation) := do
  match (← get).rest with
  | a :: b :: _ =>
    if a != b then return none
    match operations.lookup a with
    | none => return none
    | some op =>
      skipAll [a, b]
      return some op
  | _ => return none

/-- The rest of a class; `outer` holds the classes around it. -/
def classFrom (outer : List Level) (l : Level) : Nat → Reading ClassTree
  | 0 => unclosed l
  | fuel + 1 => do
    skipBlanks
    match ← current with
    | none => unclosed l
    | some '[' =>
      match ← asciiClass? with
      | some item => classFrom outer (l.add item) fuel
      | none =>
        let inner ← openClass
        classFrom (l :: outer) inner fuel
    | some ']' =>
      let _ ← advance
      let item := ClassTree.bracket l.negated ⟨l.span.start, ← mark⟩ l.content
      match outer with
      | [] => return item
      | around :: outer => classFrom outer (around.add item) fuel
    | some _ =>
      match ← operation? with
      | some op => classFrom outer (l.operate op) fuel
      | none =>
        let item ← classItem l
        classFrom outer (l.add item) fuel

/-! ### Repetitions -/

/-- What a count is, or why it is none; blanks around it do not count. -/
def decimal : Reading (Except Fault Nat) := do
  let gap := (← get).rest.takeWhile Text.isBlank
  skipAll gap
  let start ← mark
  let digits ← gather Char.isDigit [] (← bound)
  let span : Span := ⟨start, ← mark⟩
  let _ ← gather Text.isBlank [] (← bound)
  if digits.isEmpty then return .error (.located .countEmpty span none)
  let n : Nat := digits.foldl (fun n c => 10 * n + (c.toNat - 48)) 0
  if Nat.pow 2 32 ≤ n then return .error (.located .decimalInvalid span none)
  return .ok n

def counted (count : Except Fault Nat) : Reading Nat :=
  match count with
  | .ok n => return n
  | .error e => throw e

/-- Counts in braces. -/
def counts : Reading (Nat × Option Nat) := do
  let start ← mark
  let unclosed {α : Type} : Reading α := do fail .countUnclosed start (← mark)
  if !(← advanceLoosely) then unclosed
  let least ← decimal
  if ← atEnd then unclosed
  let range ←
    if ← nextIs ',' then do
      if !(← advanceLoosely) then unclosed
      if ← nextIs '\x7d' then pure (← counted least, none)
      else do
        let least ← counted least
        pure (least, some (← counted (← decimal)))
    else do
      let least ← counted least
      pure (least, some least)
  if !(← nextIs '\x7d') then unclosed
  if ← advanceLoosely then
    if ← nextIs '?' then
      let _ ← advance
  if range.2.any (· < range.1) then fail .countRange start (← mark)
  return range

/-- A mark after a part, and maybe another that says to match as little as possible. -/
def repetitionMark : Reading (Nat × Option Nat) := do
  match ← current with
  | some '\x7b' => counts
  | c =>
    if ← advance then
      if ← nextIs '?' then
        let _ ← advance
    return match c with
      | some '?' => (0, some 1)
      | some '*' => (0, none)
      | _ => (1, none)

/-! ### Groups -/

def isNameCharacter (first : Bool) (c : Char) : Bool :=
  c == '_' || Text.isAlphabetic c ||
    (!first && (c == '.' || c == '[' || c == ']' || Text.isNumeric c))

def nameFrom (start : Mark) (found : List Char) : Nat → Reading (List Char)
  | 0 => return found.reverse
  | fuel + 1 => do
    match ← current with
    | none => failBetween .nameEnd
    | some '>' => return found.reverse
    | some c =>
      if !isNameCharacter ((← mark) == start) c then failHere .nameInvalid
      let _ ← advance
      nameFrom start (c :: found) fuel

/-- The name of a group up to its closing mark. -/
def groupName : Reading Unit := do
  let start ← mark
  let name := String.ofList (← nameFrom start [] (← bound))
  let span : Span := ⟨start, ← mark⟩
  let _ ← advance
  if name.isEmpty then fail .nameEmpty start start
  match (← get).names.lookup name with
  | some earlier => throw (.located .nameDuplicate span (some earlier))
  | none => modify fun s => { s with names := (name, span) :: s.names }

def flagLetters : List Char := ['i', 'm', 's', 'U', 'u', 'R', 'x']

/-- Flags up to a colon or a closing parenthesis; `seen` holds the marks so far, and `dangling` is
the sign that nothing follows yet. -/
def flagsFrom (seen : List (Char × Span)) (dangling : Option Span) : Nat → Reading FlagChanges
  | 0 => failBetween .flagEnd
  | fuel + 1 => do
    let c := (← current).getD ')'
    if c == ':' || c == ')' then
      match dangling with
      | some span => fail .flagDangling span.start span.stop
      | none => return []
    let span ← here
    if c != '-' && !flagLetters.contains c then failHere .flagUnknown
    match seen.lookup c with
    | some earlier =>
      let cause := if c == '-' then Cause.flagNegatedTwice else .flagDuplicate
      throw (.located cause span (some earlier))
    | none =>
      if !(← advance) then failBetween .flagEnd
      let negated := (seen.lookup '-').isSome
      let others ← flagsFrom ((c, span) :: seen) (if c == '-' then some span else none) fuel
      return if c == '-' then others else (c, !negated) :: others

/-- What an opening parenthesis starts. -/
inductive Opening
  | flags (changes : FlagChanges)
  | group (changes : FlagChanges)

def lookArounds : List String := ["?=", "?!", "?<=", "?<!"]

def opening : Reading Opening := do
  let start ← here
  let _ ← advance
  skipBlanks
  for sign in lookArounds do
    if ← take sign then fail .lookAround start.start (← mark)
  let inside ← mark
  for sign in ["?P<", "?<"] do
    if ← take sign then
      groupName
      return .group []
  if ← take "?" then
    if ← atEnd then fail .groupUnclosed start.start start.stop
    let changes ← flagsFrom [] none (← bound)
    let isGroup ← nextIs ':'
    let _ ← advance
    if isGroup then return .group changes
    if changes.isEmpty then fail .nothingToRepeat inside inside
    return .flags changes
  return .group []

/-- A group in progress: what came before it, and its flags. -/
structure Around where
  span : Span
  changes : FlagChanges
  loose : Bool
  branches : List Tree
  parts : List Tree

def setLoose (changes : FlagChanges) : Reading Unit :=
  match changes.lookup 'x' with
  | some on => modify fun s => { s with loose := on }
  | none => return ()

/-- The rest of a pattern; `around` holds the groups in progress, `branches` the branches of the
innermost that are complete, and `parts` what was read of the next one. -/
def treeFrom (around : List Around) (branches parts : List Tree) : Nat → Reading Tree
  | 0 => return .empty
  | fuel + 1 => do
    skipBlanks
    match ← current with
    | none =>
      match around with
      | [] => return .ofBranches (.ofParts parts) branches
      | group :: _ => fail .groupUnclosed group.span.start group.span.stop
    | some '(' =>
      let span ← here
      let loose := (← get).loose
      match ← opening with
      | .flags changes =>
        setLoose changes
        treeFrom around branches (.flags changes :: parts) fuel
      | .group changes =>
        setLoose changes
        treeFrom (⟨span, changes, loose, branches, parts⟩ :: around) [] [] fuel
    | some ')' =>
      match around with
      | [] => failHere .groupUnopened
      | group :: around =>
        modify fun s => { s with loose := group.loose }
        let _ ← advance
        let inner := Tree.ofBranches (.ofParts parts) branches
        treeFrom around group.branches (.group group.changes inner :: group.parts) fuel
    | some '|' =>
      let _ ← advance
      treeFrom around (.ofParts parts :: branches) [] fuel
    | some '[' =>
      let l ← openClass
      let c ← classFrom [] l (← bound)
      treeFrom around branches (.charClass c :: parts) fuel
    | some c =>
      if c == '?' || c == '*' || c == '+' || c == '\x7b' then
        match parts with
        | [] => failBetween .nothingToRepeat
        | part :: parts =>
          if !part.isRepeatable then failBetween .nothingToRepeat
          let (least, most) ← repetitionMark
          treeFrom around branches (.repetition least most part :: parts) fuel
      else
        let part ← match c with
          | '\\' => escape
          | _ => do
            let span ← here
            let _ ← advance
            pure ⟨match c with
              | '.' => .dot
              | '^' => .assertion .lineStart
              | '$' => .assertion .lineEnd
              | c => .literal c false, span⟩
        treeFrom around branches (.part part :: parts) fuel

end Reading

/-- A pattern as it is written. -/
def Tree.read (pattern : String) : Except Fault Tree :=
  (Reading.treeFrom [] [] [] (pattern.length + 1)).run' { rest := pattern.toList }

end SqlLineage.Search
