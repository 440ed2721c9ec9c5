import SqlLineage.Yaml.Token

/-! The scanner of YAML text. Indentation opens and closes blocks, and a mapping shows only at the
colon after its first key, so tokens wait in a queue as long as a key may still be found. -/

namespace SqlLineage.Yaml

/-- A place where a key may have started. -/
structure SimpleKey where
  possible : Bool := false
  /-- Nothing but a key can stand there. -/
  required : Bool := false
  tokenNumber : Nat := 0
  mark : Mark := {}

structure Scanner where
  rest : List Char
  mark : Mark := {}
  /-- Tokens that are not taken yet, and how many were taken. -/
  queue : List Token := []
  taken : Nat := 0
  started : Bool := false
  ended : Bool := false
  indent : Int := -1
  indents : List Int := []
  flowLevel : Nat := 0
  keyAllowed : Bool := false
  /-- One place for each level of brackets, the innermost first. -/
  keys : List SimpleKey := []

abbrev Scan := StateT Scanner (Except SyntaxError)

namespace Scan

/-! ### Characters -/

def isBreak (c : Char) : Bool :=
  c == '\n' || c == '\r' || c == '\x85' || c == '\u2028' || c == '\u2029'

def isGap (c : Char) : Bool := c == ' ' || c == '\t'

def isNameCharacter (c : Char) : Bool := c.isAlphanum || c == '_' || c == '-'

def peekAt (n : Nat) : Scan (Option Char) := return (← get).rest[n]?

def peek : Scan (Option Char) := peekAt 0

def nextIs (c : Char) : Scan Bool := return (← peek) == some c

def gapAt (n : Nat) : Scan Bool := return (← peekAt n).any isGap

def breakAt (n : Nat) : Scan Bool := return (← peekAt n).any isBreak

/-- The end of the text or of a line. -/
def lineEnds (n : Nat) : Scan Bool := return (← peekAt n).all isBreak

/-- A blank or an end. -/
def blankAt (n : Nat) : Scan Bool := return (← peekAt n).all fun c => isGap c || isBreak c

def skip : Scan Unit :=
  modify fun s =>
    { s with
      rest := s.rest.drop 1
      mark := { s.mark with index := s.mark.index + 1, column := s.mark.column + 1 } }

def skipMany : Nat → Scan Unit
  | 0 => return ()
  | n + 1 => do
    skip
    skipMany n

/-- Takes a line break off the text; most kinds of it are the same. -/
def readBreak : Scan String := do
  let s ← get
  let (taken, text) := match s.rest with
    | '\r' :: '\n' :: _ => (2, "\n")
    | c :: _ =>
      (1, if c == '\u2028' || c == '\u2029' then String.singleton c else "\n")
    | [] => (0, "")
  set { s with
    rest := s.rest.drop taken
    mark := ⟨s.mark.index + taken, s.mark.line + 1, 0⟩ }
  return text

def fail {α : Type} (problem : String) (context : Option (String × Mark)) : Scan α := do
  throw ⟨problem, (← get).mark, context⟩

/-- A bound on the steps that the rest of the text allows. -/
def bound : Scan Nat := return (← get).rest.length + 1

/-- Takes characters off the text while `p` holds of them. -/
def readWhile (p : Char → Bool) : Scan String := do
  let text := (← get).rest.takeWhile p
  skipMany text.length
  return String.ofList text

/-- Three of one mark at the front of a line, and nothing right after. -/
def atDocumentMark : Scan Bool := do
  let s ← get
  let marked := match s.rest with
    | '-' :: '-' :: '-' :: _ | '.' :: '.' :: '.' :: _ => true
    | _ => false
  return s.mark.column == 0 && marked && (← blankAt 3)

/-! ### Keys and indentation -/

def enqueue (kind : TokenKind) (start stop : Mark) : Scan Unit :=
  modify fun s => { s with queue := s.queue ++ [⟨kind, start, stop⟩] }

/-- Puts a token among those that wait, before the token of the given number. -/
def insertAt (number : Nat) (token : Token) : Scan Unit :=
  modify fun s => { s with queue := s.queue.insertIdx (number - s.taken) token }

/-- The token of the next characters. -/
def take (kind : TokenKind) (count : Nat) : Scan Unit := do
  let start := (← get).mark
  skipMany count
  enqueue kind start (← get).mark

def missingColon {α : Type} (key : SimpleKey) : Scan α :=
  fail "could not find expected ':'" (some ("while scanning a simple key", key.mark))

def setKey (key : SimpleKey) : Scan Unit :=
  modify fun s => { s with keys := key :: s.keys.drop 1 }

def topKey : Scan SimpleKey := return (← get).keys.headD {}

/-- A key stands on one line and is not too long. -/
def isStale (mark : Mark) (key : SimpleKey) : Bool :=
  key.possible && (key.mark.line < mark.line || key.mark.index + 1024 < mark.index)

def dropKey : Scan Unit := do
  let key ← topKey
  if key.possible && key.required then missingColon key
  setKey { key with possible := false }

def saveKey : Scan Unit := do
  let s ← get
  if s.keyAllowed then
    let required := s.flowLevel == 0 && s.indent == s.mark.column
    dropKey
    setKey ⟨true, required, s.taken + s.queue.length, s.mark⟩

/-- Keys that can no longer be keys. -/
def dropStale (mark : Mark) : List SimpleKey → Scan (List SimpleKey)
  | [] => return []
  | key :: keys => do
    let key ←
      if isStale mark key then
        if key.required then missingColon key
        else pure { key with possible := false }
      else pure key
    return key :: (← dropStale mark keys)

def clearStale : Scan Unit := do
  let s ← get
  let keys ← dropStale s.mark s.keys.reverse
  modify fun s => { s with keys := keys.reverse }

/-- The oldest token that waits may turn out to follow a mapping that starts with it. -/
def headMayBeKey : Scan Bool := do
  clearStale
  let s ← get
  return s.keys.any fun key => key.possible && key.tokenNumber == s.taken

def allowKey (allowed : Bool) : Scan Unit := modify fun s => { s with keyAllowed := allowed }

/-- A block that is further in starts here. -/
def rollIndent (column : Nat) (number : Option Nat) (kind : TokenKind) (mark : Mark) :
    Scan Unit := do
  let s ← get
  if s.flowLevel == 0 && s.indent < column then
    set { s with indents := s.indent :: s.indents, indent := (column : Int) }
    match number with
    | none => enqueue kind mark mark
    | some n => insertAt n ⟨kind, mark, mark⟩

/-- Ends the blocks that are further in than the column. -/
def unrollIndent (column : Int) : Scan Unit := do
  let s ← get
  if s.flowLevel == 0 then
    let closed := (s.indent :: s.indents).takeWhile (column < ·)
    let kept := (s.indent :: s.indents).dropWhile (column < ·)
    set { s with
      indent := kept.headD (-1)
      indents := kept.drop 1
      queue := s.queue ++ closed.map fun _ => Token.mk .blockEnd s.mark s.mark }

/-! ### Scalars -/

/-- Line breaks inside a scalar: one is a blank, and more are one less. -/
def foldBreaks (first others : String) : String :=
  if first == "\n" then if others.isEmpty then " " else others else first ++ others

/-- Blanks and breaks between words: the blanks, or the breaks if there are any. `indent` is where
a tab may not stand. -/
structure Between where
  blanks : String := ""
  first : String := ""
  others : String := ""
  broken : Bool := false

def Between.text (b : Between) : String :=
  if b.broken then foldBreaks b.first b.others else b.blanks

def between (tabGuard : Option (Int × Mark)) (b : Between) : Nat → Scan Between
  | 0 => return b
  | fuel + 1 => do
    let s ← get
    match s.rest.head? with
    | none => return b
    | some c =>
      if isGap c then
        match tabGuard with
        | some (indent, start) =>
          if b.broken && (s.mark.column : Int) < indent && c == '\t' then
            fail "found a tab character that violates indentation"
              (some ("while scanning a plain scalar", start))
        | none => pure ()
        skip
        between tabGuard (if b.broken then b else { b with blanks := b.blanks.push c }) fuel
      else if isBreak c then
        let text ← readBreak
        between tabGuard
          (if b.broken then { b with others := b.others ++ text }
          else { b with blanks := "", first := text, broken := true }) fuel
      else return b

/-- The character that a letter after a backslash stands for. -/
def escapes : List (Char × Char) :=
  [('0', '\x00'), ('a', '\x07'), ('b', '\x08'), ('t', '\t'), ('\t', '\t'), ('n', '\n'),
    ('v', '\x0b'), ('f', '\x0c'), ('r', '\r'), ('e', '\x1b'), (' ', ' '), ('"', '"'), ('/', '/'),
    ('\\', '\\'), ('N', '\x85'), ('_', '\xa0'), ('L', '\u2028'), ('P', '\u2029')]

def hexDigit? (c : Char) : Option Nat :=
  if c.isDigit then some (c.toNat - '0'.toNat)
  else if 'a' ≤ c && c ≤ 'f' then some (c.toNat - 'a'.toNat + 10)
  else if 'A' ≤ c && c ≤ 'F' then some (c.toNat - 'A'.toNat + 10)
  else none

def hexValue? (cs : List Char) : Option Nat :=
  cs.foldlM (fun n c => (hexDigit? c).map (16 * n + ·)) 0

/-- A character after a backslash in double quotes. -/
def readEscape (start : Mark) : Scan Char := do
  let context := some ("while parsing a quoted scalar", start)
  let letter := (← peekAt 1).getD ' '
  match escapes.lookup letter with
  | some c =>
    if (← peekAt 1).isNone then fail "found unknown escape character" context
    skipMany 2
    return c
  | none =>
    let length ← match letter with
      | 'x' => pure 2
      | 'u' => pure 4
      | 'U' => pure 8
      | _ => fail "found unknown escape character" context
    skipMany 2
    let digits := (← get).rest.take length
    match hexValue? digits with
    | none => fail "did not find expected hexdecimal number" context
    | some n =>
      if digits.length < length then fail "did not find expected hexdecimal number" context
      if (0xD800 ≤ n && n ≤ 0xDFFF) || 0x10FFFF < n then
        fail "found invalid Unicode character escape code" context
      skipMany length
      return Char.ofNat n

/-- Characters of a quoted scalar up to a blank, a break or the closing quote; whether the line was
continued. -/
def quotedWord (single : Bool) (start : Mark) (text : String) : Nat → Scan (String × Bool)
  | 0 => return (text, false)
  | fuel + 1 => do
    if ← blankAt 0 then return (text, false)
    let c := (← peek).getD ' '
    if single && c == '\'' && (← peekAt 1) == some '\'' then
      skipMany 2
      quotedWord single start (text.push '\'') fuel
    else if c == (if single then '\'' else '"') then return (text, false)
    else if !single && c == '\\' then
      if ← breakAt 1 then
        skip
        let _ ← readBreak
        return (text, true)
      quotedWord single start (text.push (← readEscape start)) fuel
    else
      skip
      quotedWord single start (text.push c) fuel

def quotedBody (single : Bool) (start : Mark) (text : String) : Nat → Scan String
  | 0 => return text
  | fuel + 1 => do
    let context := some ("while scanning a quoted scalar", start)
    if ← atDocumentMark then fail "found unexpected document indicator" context
    if (← peek).isNone then fail "found unexpected end of stream" context
    let (text, continued) ← quotedWord single start text (← bound)
    if ← nextIs (if single then '\'' else '"') then
      skip
      return text
    let gap ← between none { broken := continued } (← bound)
    quotedBody single start (text ++ gap.text) fuel

def scanQuoted (single : Bool) : Scan Unit := do
  let start := (← get).mark
  skip
  let text ← quotedBody single start "" (← bound)
  enqueue (.scalar text false) start (← get).mark

def isFlowMark (c : Char) : Bool :=
  c == ',' || c == '[' || c == ']' || c == '\x7b' || c == '\x7d'

/-- Characters of a plain scalar up to a blank or a mark that ends it, after what stands between. -/
def plainWord (start : Mark) (text gap : String) : Nat → Scan (String × String)
  | 0 => return (text, gap)
  | fuel + 1 => do
    if ← blankAt 0 then return (text, gap)
    let c := (← peek).getD ' '
    let flow := (← get).flowLevel != 0
    if flow && c == ':' && (← peekAt 1).any (fun d => isFlowMark d || d == '?') then
      fail "found unexpected ':'" (some ("while scanning a plain scalar", start))
    if (c == ':' && (← blankAt 1)) || (flow && isFlowMark c) then return (text, gap)
    skip
    plainWord start ((text ++ gap).push c) "" fuel

/-- A plain scalar, where it ends, and whether a line break follows it. -/
def plainBody (start : Mark) (text gap : String) (stop : Mark) (broken : Bool) :
    Nat → Scan (String × Mark × Bool)
  | 0 => return (text, stop, broken)
  | fuel + 1 => do
    if (← atDocumentMark) || (← nextIs '#') then return (text, stop, broken)
    let (longer, left) ← plainWord start text gap (← bound)
    let s ← get
    let read := longer.length != text.length
    let stop := if read then s.mark else stop
    let broken := if read then false else broken
    if !((← gapAt 0) || (← breakAt 0)) then return (longer, stop, broken)
    let gap ← between (some (s.indent + 1, start)) {} (← bound)
    let broken := broken || gap.broken
    let s ← get
    if s.flowLevel == 0 && (s.mark.column : Int) < s.indent + 1 then return (longer, stop, broken)
    plainBody start longer (left ++ gap.text) stop broken fuel

def scanPlain : Scan Unit := do
  let start := (← get).mark
  let (text, stop, broken) ← plainBody start "" "" start false (← bound)
  enqueue (.scalar text true) start stop
  if broken then allowKey true

/-- Empty lines of a block scalar, its indentation, and how far in its lines go. -/
def blockBreaks (start : Mark) (indent : Nat) (deepest : Nat) (breaks : String) :
    Nat → Scan (String × Nat)
  | 0 => return (breaks, deepest)
  | fuel + 1 => do
    let s ← get
    let spaces := (s.rest.takeWhile (· == ' ')).length
    skipMany (if indent == 0 then spaces else min spaces (indent - s.mark.column))
    let s ← get
    let deepest := max deepest s.mark.column
    if (indent == 0 || s.mark.column < indent) && s.rest.head? == some '\t' then
      fail "found a tab character where an indentation space is expected"
        (some ("while scanning a block scalar", start))
    if ← breakAt 0 then
      let text ← readBreak
      blockBreaks start indent deepest (breaks ++ text) fuel
    else return (breaks, deepest)

structure BlockText where
  text : String := ""
  leading : String := ""
  trailing : String := ""
  /-- The line before starts with a blank. -/
  blank : Bool := false

def blockLines (literal : Bool) (start : Mark) (indent : Nat) (b : BlockText) :
    Nat → Scan BlockText
  | 0 => return b
  | fuel + 1 => do
    let s ← get
    if s.mark.column != indent || s.rest.isEmpty then return b
    let blank := s.rest.head?.any isGap
    let joint :=
      if !literal && b.leading == "\n" && !b.blank && !blank then
        if b.trailing.isEmpty then " " else ""
      else b.leading
    let line ← readWhile fun c => !isBreak c
    let leading ← if (← peek).isSome then readBreak else pure ""
    let (trailing, _) ← blockBreaks start indent 0 "" (← bound)
    blockLines literal start indent
      ⟨b.text ++ joint ++ b.trailing ++ line, leading, trailing, blank⟩ fuel

/-- Which line breaks at the end count, and how far in the lines are if it is said. -/
def blockHeader (start : Mark) : Scan (Int × Nat) := do
  let chomping : Scan Int := do
    if ← nextIs '+' then
      skip
      return 1
    if ← nextIs '-' then
      skip
      return -1
    return 0
  let width : Scan Nat := do
    match ← peek with
    | some c =>
      if !c.isDigit then return 0
      if c == '0' then
        fail "found an indentation indicator equal to 0"
          (some ("while scanning a block scalar", start))
      skip
      return c.toNat - '0'.toNat
    | none => return 0
  let first ← chomping
  let increment ← width
  let second ← if first == 0 && increment != 0 then chomping else pure first
  return (second, increment)

def scanBlock (literal : Bool) : Scan Unit := do
  let start := (← get).mark
  skip
  let (chomping, increment) ← blockHeader start
  let _ ← readWhile isGap
  if ← nextIs '#' then
    let _ ← readWhile fun c => !isBreak c
  if !(← lineEnds 0) then
    fail "did not find expected comment or line break"
      (some ("while scanning a block scalar", start))
  if ← breakAt 0 then
    let _ ← readBreak
  let s ← get
  let given := if increment == 0 then 0 else (max s.indent 0).toNat + increment
  let (breaks, deepest) ← blockBreaks start given 0 "" (← bound)
  let indent := if given != 0 then given else max deepest (max (s.indent + 1).toNat 1)
  let b ← blockLines literal start indent { trailing := breaks } (← bound)
  let text := b.text ++ (if chomping == -1 then "" else b.leading) ++
    (if chomping == 1 then b.trailing else "")
  enqueue (.scalar text false) start (← get).mark

/-! ### Anchors, tags and directives -/

def scanAnchor (anchored : Bool) : Scan Unit := do
  let start := (← get).mark
  skip
  let name ← readWhile isNameCharacter
  let ended := (← blankAt 0) || (← peek).any fun c =>
    c == '?' || c == ':' || c == ',' || c == ']' || c == '\x7d' || c == '%' || c == '@' ||
      c == '\x60'
  if name.isEmpty || !ended then
    fail "did not find expected alphabetic or numeric character"
      (some (if anchored then "while scanning an anchor" else "while scanning an alias", start))
  enqueue (if anchored then .anchor name else .alias name) start (← get).mark

/-- An octet that is written as a percent sign and two digits; it stays. -/
def peekOctet (context : Option (String × Mark)) : Scan Nat := do
  match (← get).rest with
  | '%' :: a :: b :: _ =>
    match hexValue? [a, b] with
    | some n => return n
    | none => fail "did not find URI escaped octet" context
  | _ => fail "did not find URI escaped octet" context

/-- How many octets a character has that starts with this one; zero where none does. -/
def octetCount (octet : Nat) : Nat :=
  if octet < 0x80 then 1
  else if octet / 32 == 6 then 2
  else if octet / 16 == 14 then 3
  else if octet / 8 == 30 then 4
  else 0

def trailingOctets (context : Option (String × Mark)) (value : Nat) : Nat → Scan Nat
  | 0 => return value
  | count + 1 => do
    let octet ← peekOctet context
    if octet / 64 != 2 then fail "found an incorrect trailing UTF-8 octet" context
    skipMany 3
    trailingOctets context (64 * value + octet % 64) count

def escapedCharacter (context : Option (String × Mark)) : Scan Char := do
  let first ← peekOctet context
  let count := octetCount first
  if count == 0 then fail "found an incorrect leading UTF-8 octet" context
  skipMany 3
  let bits := if count == 1 then first else first % Nat.pow 2 (7 - count)
  let n ← trailingOctets context bits (count - 1)
  return if n.isValidChar then Char.ofNat n else '\ufffd'

def isUriCharacter (c : Char) : Bool :=
  isNameCharacter c || (";/?:@&=+$.!~*'()").toList.contains c

/-- Characters of a tag; commas and brackets are among them where no flow collection is. -/
def uriFrom (marks : Bool) (context : Option (String × Mark)) (text : String) : Nat → Scan String
  | 0 => return text
  | fuel + 1 => do
    match ← peek with
    | none => return text
    | some c =>
      if c == '%' then uriFrom marks context (text.push (← escapedCharacter context)) fuel
      else if isUriCharacter c || (marks && (c == ',' || c == '[' || c == ']')) then
        skip
        uriFrom marks context (text.push c) fuel
      else return text

def uri (marks : Bool) (context : Option (String × Mark)) : Scan String := do
  let text ← uriFrom marks context "" (← bound)
  if text.isEmpty then fail "did not find expected tag URI" context
  return text

def scanTag : Scan Unit := do
  let start := (← get).mark
  let context := some ("while scanning a tag", start)
  let parsing := some ("while parsing a tag", start)
  let (handle, suffix) ←
    if (← peekAt 1) == some '<' then do
      skipMany 2
      let text ← uri true parsing
      if !(← nextIs '>') then fail "did not find the expected '>'" context
      skip
      pure ("", text)
    else do
      skip
      let name ← readWhile isNameCharacter
      if ← nextIs '!' then
        skip
        pure ("!" ++ name ++ "!", ← uri false parsing)
      else
        let suffix ← uriFrom false parsing name (← bound)
        pure (if suffix.isEmpty then ("", "!") else ("!", suffix))
  if !((← get).flowLevel != 0 && (← nextIs ',')) && !(← blankAt 0) then
    fail "did not find expected whitespace or line break" context
  enqueue (.tag handle suffix) start (← get).mark

/-- A number of at most nine digits. -/
def versionNumber (context : Option (String × Mark)) : Scan Nat := do
  let digits := (← get).rest.takeWhile Char.isDigit
  skipMany (min digits.length 9)
  if 9 < digits.length then fail "found extremely long version number" context
  if digits.isEmpty then fail "did not find expected version number" context
  return digits.foldl (fun n c => 10 * n + (c.toNat - '0'.toNat)) 0

def versionDirective (start : Mark) : Scan TokenKind := do
  let context := some ("while scanning a %YAML directive", start)
  let _ ← readWhile isGap
  let major ← versionNumber context
  if !(← nextIs '.') then fail "did not find expected digit or '.' character" context
  skip
  return .versionDirective major (← versionNumber context)

/-- A word between two marks, or one mark alone. -/
def directiveHandle (start : Mark) : Scan String := do
  if !(← nextIs '!') then
    fail "did not find expected '!'" (some ("while scanning a tag directive", start))
  skip
  let name ← readWhile isNameCharacter
  if ← nextIs '!' then
    skip
    return "!" ++ name ++ "!"
  if !name.isEmpty then
    fail "did not find expected '!'" (some ("while parsing a tag directive", start))
  return "!"

def tagDirective (start : Mark) : Scan TokenKind := do
  let context := some ("while scanning a %TAG directive", start)
  let _ ← readWhile isGap
  let handle ← directiveHandle start
  if !(← gapAt 0) then fail "did not find expected whitespace" context
  let _ ← readWhile isGap
  let text ← uri true (some ("while parsing a %TAG directive", start))
  if !(← blankAt 0) then fail "did not find expected whitespace or line break" context
  return .tagDirective handle text

def scanDirective : Scan Unit := do
  let start := (← get).mark
  let context := some ("while scanning a directive", start)
  skip
  let name ← readWhile isNameCharacter
  if name.isEmpty then fail "could not find expected directive name" context
  if !(← blankAt 0) then fail "found unexpected non-alphabetical character" context
  let kind ←
    if name == "YAML" then versionDirective start
    else if name == "TAG" then tagDirective start
    else fail "found unknown directive name" context
  let stop := (← get).mark
  let _ ← readWhile isGap
  if ← nextIs '#' then
    let _ ← readWhile fun c => !isBreak c
  if !(← lineEnds 0) then fail "did not find expected comment or line break" context
  if ← breakAt 0 then
    let _ ← readBreak
  enqueue kind start stop

/-! ### Tokens -/

/-- Passes over blanks, comments and line breaks. -/
def toNextToken : Nat → Scan Unit
  | 0 => return ()
  | fuel + 1 => do
    let s ← get
    let tabs := s.flowLevel != 0 || !s.keyAllowed
    let _ ← readWhile fun c => c == ' ' || (tabs && c == '\t')
    if ← nextIs '#' then
      let _ ← readWhile fun c => !isBreak c
    if ← breakAt 0 then
      let _ ← readBreak
      if s.flowLevel == 0 then allowKey true
      toNextToken fuel

def streamEnd : Scan Unit := do
  modify fun s =>
    if s.mark.column == 0 then s
    else { s with mark := { s.mark with line := s.mark.line + 1, column := 0 } }
  unrollIndent (-1)
  dropKey
  allowKey false
  modify fun s => { s with ended := true }
  take .streamEnd 0

def openFlow (kind : TokenKind) : Scan Unit := do
  saveKey
  modify fun s => { s with flowLevel := s.flowLevel + 1, keys := {} :: s.keys, keyAllowed := true }
  take kind 1

def closeFlow (kind : TokenKind) : Scan Unit := do
  dropKey
  modify fun s =>
    if s.flowLevel == 0 then { s with keyAllowed := false }
    else { s with flowLevel := s.flowLevel - 1, keys := s.keys.drop 1, keyAllowed := false }
  take kind 1

def blockEntry : Scan Unit := do
  let s ← get
  if s.flowLevel == 0 then
    if !s.keyAllowed then fail "block sequence entries are not allowed in this context" none
    rollIndent s.mark.column none .blockSequenceStart s.mark
  dropKey
  allowKey true
  take .blockEntry 1

def explicitKey : Scan Unit := do
  let s ← get
  if s.flowLevel == 0 then
    if !s.keyAllowed then fail "mapping keys are not allowed in this context" none
    rollIndent s.mark.column none .blockMappingStart s.mark
  dropKey
  allowKey (s.flowLevel == 0)
  take .key 1

/-- A colon: what came before it is a key, if it can be. -/
def value : Scan Unit := do
  let s ← get
  let key ← topKey
  if key.possible then
    insertAt key.tokenNumber ⟨.key, key.mark, key.mark⟩
    rollIndent key.mark.column (some key.tokenNumber) .blockMappingStart key.mark
    setKey { key with possible := false }
    allowKey false
  else
    if s.flowLevel == 0 then
      if !s.keyAllowed then fail "mapping values are not allowed in this context" none
      rollIndent s.mark.column none .blockMappingStart s.mark
    allowKey (s.flowLevel == 0)
  take .value 1

def documentMark (kind : TokenKind) : Scan Unit := do
  unrollIndent (-1)
  dropKey
  allowKey false
  take kind 3

def isIndicator (c : Char) : Bool := ("-?:,[]\x7b\x7d#&*!|>'\"%@\x60").toList.contains c

/-- The next token, which may bring others with it. -/
def fetch : Scan Unit := do
  if !(← get).started then
    modify fun s => { s with started := true, indent := -1, keys := [{}], keyAllowed := true }
    take .streamStart 0
    return
  toNextToken (← bound)
  clearStale
  let s ← get
  unrollIndent s.mark.column
  let flow := s.flowLevel != 0
  match s.rest.head? with
  | none => streamEnd
  | some c =>
    if s.mark.column == 0 && c == '%' then
      unrollIndent (-1)
      dropKey
      allowKey false
      scanDirective
    else if ← atDocumentMark then
      documentMark (if c == '-' then .documentStart else .documentEnd)
    else if c == '[' then openFlow .flowSequenceStart
    else if c == '\x7b' then openFlow .flowMappingStart
    else if c == ']' then closeFlow .flowSequenceEnd
    else if c == '\x7d' then closeFlow .flowMappingEnd
    else if c == ',' then
      dropKey
      allowKey true
      take .flowEntry 1
    else
      let blankAfter ← blankAt 1
      if c == '-' && blankAfter then blockEntry
      else if c == '?' && (flow || blankAfter) then explicitKey
      else if c == ':' && (flow || blankAfter) then value
      else if c == '*' || c == '&' then
        saveKey
        allowKey false
        scanAnchor (c == '&')
      else if c == '!' then
        saveKey
        allowKey false
        scanTag
      else if (c == '|' || c == '>') && !flow then
        dropKey
        allowKey true
        scanBlock (c == '|')
      else if c == '\'' || c == '"' then
        saveKey
        allowKey false
        scanQuoted (c == '\'')
      else if !(isGap c || isIndicator c) || (c == '-' && !(← gapAt 1)) ||
          (!flow && (c == '?' || c == ':') && !blankAfter) then
        saveKey
        allowKey false
        scanPlain
      else
        fail "found character that cannot start any token"
          (some ("while scanning for the next token", s.mark))

/-- Fetches tokens until the oldest is sure to be the next. -/
def fetchMore : Nat → Scan Unit
  | 0 => return ()
  | fuel + 1 => do
    if (← get).queue.isEmpty || (← headMayBeKey) then
      if (← get).ended then return ()
      fetch
      fetchMore fuel

/-- The next token, which stays. -/
def token : Scan Token := do
  fetchMore (2 * (← bound) + 2)
  let s ← get
  return s.queue.headD ⟨.streamEnd, s.mark, s.mark⟩

def pop : Scan Unit := modify fun s => { s with queue := s.queue.drop 1, taken := s.taken + 1 }

end Scan
end SqlLineage.Yaml
