import SqlLineage.Sql.Dialect.Lexical
import SqlLineage.Sql.Keyword
import SqlLineage.Sql.Token
import SqlLineage.Text.Numeric

/-! The lexer: from a text to its tokens, white space and comments included. Each scanner reads a
prefix of what is left and hands back the rest with its place. -/

namespace SqlLineage.Sql

/-- What is left of a text, and where it starts. -/
structure Cursor where
  place : Place
  rest : List Char

structure LexError where
  message : String
  place : Place
  deriving DecidableEq, Repr

def LexError.render (e : LexError) : String := e.message ++ e.place.render

namespace Cursor

def start (cs : List Char) : Cursor := ⟨Place.start, cs⟩

def peek? (c : Cursor) : Option Char := c.rest.head?

/-- The second character of the rest. -/
def second? (c : Cursor) : Option Char := c.rest.tail.head?

/-- The cursor after its first character. -/
def next (c : Cursor) : Cursor :=
  match c.rest with
  | [] => c
  | ch :: rest => ⟨c.place.after ch, rest⟩

def skip : Nat → Cursor → Cursor
  | 0, c => c
  | n + 1, c => skip n c.next

/-- The longest prefix on which `p` holds, and the cursor after it. -/
def spanFrom (p : Char → Bool) (place : Place) : List Char → List Char × Cursor
  | [] => ([], ⟨place, []⟩)
  | ch :: rest =>
    if p ch then
      let (taken, c) := spanFrom p (place.after ch) rest
      (ch :: taken, c)
    else ([], ⟨place, ch :: rest⟩)

def span (c : Cursor) (p : Char → Bool) : List Char × Cursor := spanFrom p c.place c.rest

end Cursor

/-- What a scanner read, and what it left. -/
abbrev Scanned (α : Type) := α × Cursor

def wordToken (value : String) : Token := .word value (keywordOf value) none

def bareWord (d : Dialect) (first : List Char) (c : Cursor) : Token × Cursor :=
  let (tail, c) := c.span d.continuesIdentifier
  (wordToken (String.ofList (first ++ tail)), c)

/-! ### Strings and delimited identifiers -/

def escapedCharacter : Char → Char
  | '0' => Char.ofNat 0
  | 'a' => Char.ofNat 7
  | 'b' => Char.ofNat 8
  | 'f' => Char.ofNat 12
  | 'n' => '\n'
  | 'r' => '\r'
  | 't' => '\t'
  | 'Z' => Char.ofNat 26
  | c => c

/-- The body of a literal up to its closing quote. A quote written twice stands for one. -/
def quotedBody (quote : Char) (backslash : Bool) (fault : LexError) (place : Place) :
    List Char → Except LexError (Scanned (List Char))
  | [] => .error fault
  | ch :: rest =>
    let place := place.after ch
    if ch = quote then
      match rest with
      | next :: rest' =>
        if next = quote then do
          let (body, c) ← quotedBody quote backslash fault (place.after next) rest'
          return (ch :: body, c)
        else .ok ([], ⟨place, rest⟩)
      | [] => .ok ([], ⟨place, []⟩)
    else if ch = '\\' && backslash then
      match rest with
      | [] => .error fault
      | next :: rest' => do
        let (body, c) ← quotedBody quote backslash fault (place.after next) rest'
        return (escapedCharacter next :: body, c)
    else do
      let (body, c) ← quotedBody quote backslash fault place rest
      return (ch :: body, c)

/-- The body of a literal in triple quotes; `run` counts the quotes just read. -/
def tripleQuotedBody (quote : Char) (backslash : Bool) (fault : LexError) (place : Place)
    (run : Nat) (body : List Char) : List Char → Except LexError (Scanned (List Char))
  | [] => .error fault
  | ch :: rest =>
    let place := place.after ch
    if ch = quote then
      if run = 2 then .ok ((body.drop 2).reverse, ⟨place, rest⟩)
      else tripleQuotedBody quote backslash fault place (run + 1) (ch :: body) rest
    else if ch = '\\' && backslash then
      match rest with
      | [] => .error fault
      | next :: rest' =>
        tripleQuotedBody quote backslash fault (place.after next) 0
          (escapedCharacter next :: body) rest'
    else tripleQuotedBody quote backslash fault place 0 (ch :: body) rest

def unterminated (place : Place) : LexError := ⟨"Unterminated string literal", place⟩

/-- A literal whose opening quote is the first character. -/
def quotedString (form : StringForm) (quote : Char) (backslash : Bool) (c : Cursor) :
    Except LexError (Scanned Token) := do
  let opened := c.next
  let (body, c) ← quotedBody quote backslash (unterminated c.place) opened.place opened.rest
  return (.text form (String.ofList body), c)

/-- A literal in one or three quotes; two quotes and no third are the empty literal. -/
def quotedOrTripleString (form triple : StringForm) (quote : Char)
    (backslash : Bool) (c : Cursor) : Except LexError (Scanned Token) :=
  let one := c.next
  let two := one.next
  if one.peek? = some quote then
    if two.peek? = some quote then do
      let three := two.next
      let (body, c) ← tripleQuotedBody quote backslash (unterminated three.place) three.place 0 []
        three.rest
      return (.text triple (String.ofList body), c)
    else .ok (.text form "", two)
  else do
    let (body, c) ← quotedBody quote backslash (unterminated one.place) one.place one.rest
    return (.text form (String.ofList body), c)

/-- A literal in the dialect's plain string syntax. -/
def plainString (d : Dialect) (form triple : StringForm) (quote : Char) (backslash : Bool)
    (c : Cursor) : Except LexError (Scanned Token) :=
  if d.tripleQuotedStrings then quotedOrTripleString form triple quote backslash c
  else quotedString form quote backslash c

/-- The text up to the closing quote, which written twice stands for itself. -/
def delimitedBody (close : Char) (place : Place) : List Char → Option (List Char × Cursor)
  | [] => none
  | ch :: rest =>
    let place := place.after ch
    if ch = close then
      match rest with
      | next :: rest' =>
        if next = close then
          (delimitedBody close (place.after next) rest').map fun (body, c) => (ch :: body, c)
        else some ([], ⟨place, rest⟩)
      | [] => some ([], ⟨place, []⟩)
    else (delimitedBody close place rest).map fun (body, c) => (ch :: body, c)

def missingClose (close : Char) (place : Place) : LexError :=
  ⟨"Expected close delimiter '" ++ close.toString ++ "' before EOF.", place⟩

def delimitedName (quote : Char) (c : Cursor) : Except LexError (Scanned String) :=
  let opened := c.next
  match delimitedBody (closingQuote quote) opened.place opened.rest with
  | some (body, rest) => .ok (String.ofList body, rest)
  | none => .error (missingClose (closingQuote quote) c.place)

/-- A bracket that may open a name: what stands after it and blanks, if that can start a name. -/
def bracketedStart? (d : Dialect) (c : Cursor) : Option Char :=
  match (c.next.span Text.isBlank).2.peek? with
  | some ch => if ch = '"' || d.startsIdentifier ch then some ch else none
  | none => none

/-- A name in brackets, or in quotes within brackets. -/
def bracketedName (first : Char) (c : Cursor) : Except LexError (Scanned Token) :=
  if first = '"' then do
    let inner := (c.next.span Text.isBlank).2
    let (name, rest) ← delimitedName '"' inner
    let closing := (rest.span Text.isBlank).2
    if closing.peek? = some ']' then
      .ok (.word ("\"" ++ name ++ "\"") "" (some '['), closing.next)
    else .error (missingClose ']' c.place)
  else do
    let (name, rest) ← delimitedName '[' c
    return (.word name "" (some '['), rest)

/-! ### Escaped and Unicode literals -/

def hexValue? (c : Char) : Option Nat :=
  if '0' ≤ c && c ≤ '9' then some (c.toNat - 48)
  else if 'a' ≤ c && c ≤ 'f' then some (c.toNat - 87)
  else if 'A' ≤ c && c ≤ 'F' then some (c.toNat - 55)
  else none

def octalValue? (c : Char) : Option Nat :=
  if '0' ≤ c && c ≤ '7' then some (c.toNat - 48) else none

/-- At most `n` digits in front, most significant first, and how many there were. -/
def leadingDigits (value? : Char → Option Nat) : Nat → List Char → List Nat
  | 0, _ => []
  | _, [] => []
  | n + 1, c :: rest =>
    match value? c with
    | some v => v :: leadingDigits value? n rest
    | none => []

def digitsValue (base : Nat) (digits : List Nat) : Nat :=
  digits.foldl (fun acc v => acc * base + v) 0

/-- The number that exactly `n` characters write, the first of which may be a plus sign. -/
def hexNumber? (n : Nat) (cs : List Char) : Option Nat :=
  let written := cs.take n
  let digits := if written.head? = some '+' then written.tail else written
  let values := leadingDigits hexValue? n digits
  if written.length = n && !digits.isEmpty && values.length = digits.length then
    some (digitsValue 16 values)
  else none

/-- The character of a code point that is not a surrogate and not zero. -/
def codeCharacter? (n : Nat) : Option Char :=
  if n = 0 then none else if h : n.isValidChar then some (Char.ofNatAux n h) else none

/-- One escape after its backslash: the character and the number of characters read. -/
def escapeSequence? : List Char → Option (Char × Nat)
  | [] => none
  | 'b' :: _ => some (Char.ofNat 8, 1)
  | 'f' :: _ => some (Char.ofNat 12, 1)
  | 'n' :: _ => some ('\n', 1)
  | 'r' :: _ => some ('\r', 1)
  | 't' :: _ => some ('\t', 1)
  | 'u' :: rest => ((hexNumber? 4 rest).bind codeCharacter?).map (·, 5)
  | 'U' :: rest => ((hexNumber? 8 rest).bind codeCharacter?).map (·, 9)
  | 'x' :: rest =>
    let digits := leadingDigits hexValue? 2 rest
    if digits.isEmpty then some ('x', 1)
    else
      let n := digitsValue 16 digits
      if n = 0 || 127 < n then none else some (Char.ofNat n, digits.length + 1)
  | c :: rest =>
    if (octalValue? c).isSome then
      let digits := leadingDigits octalValue? 3 (c :: rest)
      let n := digitsValue 8 digits % 256
      if n = 0 || 127 < n then none else some (Char.ofNat n, digits.length)
    else if c.toNat = 0 then none
    else some (c, 1)

/-- The body of an escaped literal; `fuel` bounds the characters left. -/
def escapedBody : Nat → List Char → Cursor → Option (List Char × Cursor)
  | 0, _, _ => none
  | fuel + 1, body, c =>
    match c.rest with
    | [] => none
    | '\'' :: '\'' :: _ => escapedBody fuel ('\'' :: body) (c.skip 2)
    | '\'' :: _ => some (body.reverse, c.next)
    | '\\' :: rest =>
      match escapeSequence? rest with
      | some (ch, n) => escapedBody fuel (ch :: body) (c.skip (n + 1))
      | none => none
    | ch :: _ => escapedBody fuel (ch :: body) c.next

/-- `c` stands at the opening quote, `place` at the letter before it. -/
def escapedString (place : Place) (c : Cursor) : Except LexError (Scanned Token) :=
  match escapedBody c.rest.length [] c.next with
  | some (body, rest) => .ok (.text .escaped (String.ofList body), rest)
  | none => .error ⟨"Unterminated encoded string literal", place⟩

/-- The number that the next `n` hexadecimal digits write after `value`. -/
def unicodeDigits : Nat → Nat → Cursor → Except LexError (Scanned Nat)
  | 0, value, c => .ok (value, c)
  | n + 1, value, c =>
    match c.peek? with
    | none =>
      .error ⟨"Unexpected EOF while parsing hex digit in escaped unicode string.", c.place⟩
    | some ch =>
      match hexValue? ch with
      | some v => unicodeDigits n (value * 16 + v) c.next
      | none =>
        .error ⟨"Invalid hex digit in escaped unicode string: " ++ ch.toString, c.next.place⟩

/-- The code point of exactly `n` hexadecimal digits. -/
def unicodeEscape (n : Nat) (c : Cursor) : Except LexError (Scanned Char) := do
  let (value, c) ← unicodeDigits n 0 c
  if h : value.isValidChar then return (Char.ofNatAux value h, c)
  else throw ⟨"Invalid unicode character: " ++ String.ofList (Nat.toDigits 16 value), c.place⟩

def unicodeBody : Nat → List Char → Cursor → Except LexError (Scanned (List Char))
  | 0, _, c => .error ⟨"Unterminated unicode encoded string literal", c.place⟩
  | fuel + 1, body, c =>
    match c.rest with
    | [] => .error ⟨"Unterminated unicode encoded string literal", c.place⟩
    | '\'' :: '\'' :: _ => unicodeBody fuel ('\'' :: body) (c.skip 2)
    | '\'' :: _ => .ok (body.reverse, c.next)
    | '\\' :: '\\' :: _ => unicodeBody fuel ('\\' :: body) (c.skip 2)
    | '\\' :: '+' :: _ => do
      let (ch, c) ← unicodeEscape 6 (c.skip 2)
      unicodeBody fuel (ch :: body) c
    | '\\' :: _ => do
      let (ch, c) ← unicodeEscape 4 c.next
      unicodeBody fuel (ch :: body) c
    | ch :: _ => unicodeBody fuel (ch :: body) c.next

/-! ### Comments -/

def lineComment (d : Dialect) (opening : String) (c : Cursor) : Token × Cursor :=
  let (body, c) := c.span fun ch => ch != '\n' && !(ch == '\r' && d.commentEndsAtReturn)
  let body := match c.peek? with
    | some ch => body ++ [ch]
    | none => body
  (.lineComment opening (String.ofList body), c.next)

/-- The body of a block comment that is `depth + 1` comments deep. -/
def blockBody (nested : Bool) (depth : Nat) (place : Place) :
    List Char → Except LexError (Scanned (List Char))
  | [] => .error ⟨"Unexpected EOF while in a multi-line comment", place⟩
  | '*' :: '/' :: rest =>
    let place := (place.after '*').after '/'
    match depth with
    | 0 => .ok ([], ⟨place, rest⟩)
    | depth + 1 => do
      let (body, c) ← blockBody nested depth place rest
      return ('*' :: '/' :: body, c)
  | '/' :: '*' :: rest => do
    if nested then
      let (body, c) ← blockBody nested (depth + 1) ((place.after '/').after '*') rest
      return ('/' :: '*' :: body, c)
    else
      let (body, c) ← blockBody nested depth (place.after '/') ('*' :: rest)
      return ('/' :: body, c)
  | ch :: rest => do
    let (body, c) ← blockBody nested depth (place.after ch) rest
    return (ch :: body, c)

def blockComment (d : Dialect) (c : Cursor) : Except LexError (Scanned Token) := do
  let (body, c) ← blockBody d.nestedComments 0 c.place c.rest
  return (.blockComment (String.ofList body), c)

/-! ### Dollar signs -/

/-- A body without a tag; `pending` says that a single dollar sign was just read. -/
def plainDollarBody (place : Place) (pending : Bool) :
    List Char → Except LexError (Scanned (List Char))
  | [] => .error ⟨"Unterminated dollar-quoted string", place⟩
  | ch :: rest =>
    let place := place.after ch
    if pending then
      if ch = '$' then .ok ([], ⟨place, rest⟩)
      else do
        let (body, c) ← plainDollarBody place false rest
        return ('$' :: ch :: body, c)
    else if ch = '$' then plainDollarBody place true rest
    else do
      let (body, c) ← plainDollarBody place false rest
      return (ch :: body, c)

/-- A body that ends where the characters read last spell `close`. `read` holds the body so far,
last character first. -/
def taggedDollarBody (close : List Char) (place : Place) (read : List Char) :
    List Char → Except LexError (Scanned (List Char))
  | [] => .error ⟨"Unterminated dollar-quoted, expected $", place⟩
  | ch :: rest =>
    let place := place.after ch
    let read := ch :: read
    if close.reverse.isPrefixOf read then .ok ((read.drop close.length).reverse, ⟨place, rest⟩)
    else taggedDollarBody close place read rest

def isAlphanumeric (c : Char) : Bool := Text.isAlphabetic c || Text.isNumeric c

/-- A placeholder or a dollar-quoted body; the first character is a dollar sign. -/
def dollarValue (d : Dialect) (c : Cursor) : Except LexError (Scanned Token) :=
  let c := c.next
  if c.peek? = some '$' && !d.dollarPlaceholders then do
    let c := c.next
    let (body, c) ← plainDollarBody c.place false c.rest
    return (.dollarText none (String.ofList body), c)
  else
    let (tag, c) := c.span fun ch =>
      isAlphanumeric ch || ch == '_' || (ch == '$' && d.dollarPlaceholders)
    if c.peek? = some '$' && !d.dollarPlaceholders then do
      let opened := c.next
      let (body, c) ← taggedDollarBody ('$' :: tag ++ ['$']) opened.place [] opened.rest
      let name := if tag.isEmpty then none else some (String.ofList tag)
      return (.dollarText name (String.ofList body), c)
    else .ok (.placeholder ("$" ++ String.ofList tag), c)

/-! ### Numbers -/

/-- The characters of an exponent that has at least one digit. -/
def exponent (c : Cursor) : List Char × Cursor :=
  match c.rest with
  | e :: rest =>
    if e = 'e' || e = 'E' then
      let sign := match rest with
        | s :: _ => if s = '+' || s = '-' then [s] else []
        | [] => []
      let digits := (c.skip (1 + sign.length)).span Dialect.isDigit
      if digits.1.isEmpty then ([], c) else (e :: sign ++ digits.1, digits.2)
    else ([], c)
  | [] => ([], c)

def isHexDigit (c : Char) : Bool := (hexValue? c).isSome

def opensExponent (c : Cursor) : Bool := c.peek? = some 'e' || c.peek? = some 'E'

/-- A number, or a period. Where names may start with digits, a word that follows at once and does
not start like an exponent is part of the name. -/
def numberOrPeriod (d : Dialect) (c : Cursor) : Token × Cursor :=
  let (whole, c) := c.span Dialect.isDigit
  if whole = ['0'] && c.peek? = some 'x' then
    let (digits, c) := c.next.span isHexDigit
    (.text .hex (String.ofList digits), c)
  else
    let (point, c) := if c.peek? = some '.' then (['.'], c.next) else ([], c)
    let (fraction, c) := c.span Dialect.isDigit
    let mantissa := whole ++ point ++ fraction
    if mantissa = ['.'] then (.symbol ".", c)
    else
      let (tail, named) :=
        if d.digitsStartNames && !opensExponent c then c.span d.continuesIdentifier else ([], c)
      if !tail.isEmpty then (wordToken (String.ofList (mantissa ++ tail)), named)
      else
        let (power, c) := exponent c
        let digits := String.ofList (mantissa ++ power)
        if c.peek? = some 'L' then (.number digits true, c.next) else (.number digits false, c)

/-! ### Operators and words -/

def isOperatorPart (d : Dialect) (c : Char) : Bool :=
  d.customOperators && "+-*/<>=~!@#%^&|\x60?".toList.contains c

/-- The operator `spelling`, or a longer one where the dialect joins operator characters. -/
def operator (d : Dialect) (spelling : String) (c : Cursor) : Token × Cursor :=
  let (tail, c) := c.span (isOperatorPart d)
  if tail.isEmpty then (.symbol spelling, c)
  else (.customOperator (spelling ++ String.ofList tail), c)

/-- Operators that the dialect may extend, longest first. -/
def openOperators : List String :=
  ["->>", "->", "||/", "||", "|/", "|", "<=>", "<=", "<>", "<<", "<@", "<", ">=", ">>", ">",
    "&&", "&", "~~*", "~~", "~*", "~", "#>>", "#>", "#-", "-", "%"]

/-- Operators and punctuation that never grow, longest first. -/
def closedOperators : List String :=
  ["!~~*", "!~~", "!~*", "!~", "!!", "!=", "!", "=>", "==", "=", "::", ":=", ":", "^@", "^", "+",
    "*", "(", ")", ",", ";", "\\", "[", "]", "\x7b", "\x7d"]

/-- A token that `!=` and `<>` both spell. -/
def canonicalOperator (spelling : String) : String := if spelling = "!=" then "<>" else spelling

def startsWith (spelling : String) (cs : List Char) : Bool := spelling.toList.isPrefixOf cs

/-- A word, or a number where a dialect lets words start with digits. -/
def identifierOrNumber (d : Dialect) (first : List Char) (c : Cursor) : Token × Cursor :=
  let (tail, c) := c.span d.continuesIdentifier
  let word := first ++ tail
  if word.all fun ch => Dialect.isDigit ch || ch == '.' then
    let (more, c) := c.span fun ch => Dialect.isDigit ch || ch == '.'
    (.number (String.ofList (word ++ more)) false, c)
  else (wordToken (String.ofList word), c)

/-- An at sign: an operator, or the start of a name. -/
def atSign (d : Dialect) (c : Cursor) : Token × Cursor :=
  let one := c.next
  let named := d.startsIdentifier '@'
  match one.peek? with
  | some '>' => (.symbol "@>", one.next)
  | some '?' => (.symbol "@?", one.next)
  | some '@' =>
    let two := one.next
    match two.peek? with
    | some ' ' | none => (.symbol "@@", two)
    | some ch =>
      if named then identifierOrNumber d ['@', '@', ch] two.next else (.symbol "@@", two)
  | some ' ' | some '\'' | some '"' | some '\x60' | none => (.symbol "@", one)
  | some ch => if named then identifierOrNumber d ['@', ch] one.next else (.symbol "@", one)

/-- A hash sign that opens no comment: an operator, or the start of a name. -/
def hashSign (d : Dialect) (c : Cursor) : Token × Cursor :=
  let one := c.next
  match one.peek? with
  | some '-' => operator d "#-" one.next
  | some '>' =>
    if one.next.peek? = some '>' then operator d "#>>" one.next.next
    else operator d "#>" one.next
  | some ' ' => (.symbol "#", one)
  | some ch =>
    if d.startsIdentifier '#' then identifierOrNumber d ['#', ch] one.next else operator d "#" one
  | none => operator d "#" one

/-- A question mark; as an operator it takes the character after it along. -/
def questionMark (d : Dialect) (c : Cursor) : Token × Cursor :=
  let one := c.next
  if d.questionOperators then
    match one.peek? with
    | some '|' => (.symbol "?|", one.next)
    | some '&' => (.symbol "?&", one.next)
    | _ => (.symbol "?", one.next)
  else
    let (digits, c) := one.span Text.isNumeric
    (.placeholder ("?" ++ String.ofList digits), c)

/-- A string with a letter in front, if the dialect knows that letter and a quote follows it. -/
def letteredString? (d : Dialect) (letter quote : Char) (c : Cursor) :
    Option (Except LexError (Scanned Token)) :=
  let one := c.next
  let apostrophe := quote = '\''
  let quoted := apostrophe || quote = '"'
  if (letter = 'B' || letter = 'b') && d.byteStrings && quoted then
    some (if apostrophe then plainString d .byteSingle .byteTripleSingle quote false one
      else plainString d .byteDouble .byteTripleDouble quote false one)
  else if (letter = 'R' || letter = 'r') && d.rawStrings && quoted then
    some (if apostrophe then quotedOrTripleString .rawSingle .rawTripleSingle quote false one
      else quotedOrTripleString .rawDouble .rawTripleDouble quote false one)
  else if (letter = 'N' || letter = 'n') && apostrophe then
    some (quotedString .national quote true one)
  else if (letter = 'E' || letter = 'e') && apostrophe then some (escapedString c.place one)
  else if (letter = 'U' || letter = 'u') && d.unicodeStrings && quote = '&' &&
      one.second? = some '\'' then
    let opened := one.skip 2
    some do
      let (body, c) ← unicodeBody (opened.rest.length + 1) [] opened
      return (.text .unicode (String.ofList body), c)
  else if (letter = 'X' || letter = 'x') && apostrophe then
    some (quotedString .hex quote true one)
  else none

/-- Letters that may stand before a string; such a letter starts a word in every dialect that
lets it stand there. -/
def isStringLetter (d : Dialect) (c : Char) : Bool :=
  "NnEeXx".toList.contains c || ("Bb".toList.contains c && d.byteStrings) ||
    ("Rr".toList.contains c && d.rawStrings) || ("Uu".toList.contains c && d.unicodeStrings)

/-- The token at the cursor, whose first character is `ch`. -/
def scanToken (d : Dialect) (ch : Char) (c : Cursor) :
    Except LexError (Scanned Token) :=
  let one := c.next
  if ch = ' ' then .ok (.space, one)
  else if ch = '\t' then .ok (.tab, one)
  else if ch = '\n' then .ok (.newline, one)
  else if ch = '\r' then .ok (.newline, if one.peek? = some '\n' then one.next else one)
  else if isStringLetter d ch then
    match one.peek?.bind fun quote => letteredString? d ch quote c with
    | some scan => scan
    | none => .ok (bareWord d [ch] one)
  else if ch = '\'' then plainString d .single .tripleSingle ch d.backslashInStrings c
  else if ch = '"' && !d.identifierQuotes.contains ch then
    plainString d .double .tripleDouble ch d.backslashInStrings c
  else if d.identifierQuotes.contains ch then do
    let (name, c) ← delimitedName ch c
    return (.word name "" (some ch), c)
  else if ch = '[' && d.bracketsNames && (bracketedStart? d c).isSome then
    bracketedName ((bracketedStart? d c).getD '[') c
  else if Dialect.isDigit ch || ch = '.' then .ok (numberOrPeriod d c)
  else if ch = '-' && one.peek? = some '-' then .ok (lineComment d "--" one.next)
  else if ch = '/' then
    if one.peek? = some '*' then blockComment d one.next
    else if one.peek? = some '/' && d.slashComments then .ok (lineComment d "//" one.next)
    else if one.peek? = some '/' && d.slashDivision then .ok (.symbol "//", one.next)
    else .ok (.symbol "/", one)
  else if ch = '#' && d.hashComments then .ok (lineComment d "#" one)
  else if ch = '#' then .ok (hashSign d c)
  else if ch = '@' then .ok (atSign d c)
  else if ch = '?' then .ok (questionMark d c)
  else if ch = '%' && (one.peek?.elim false Text.isBlank) then .ok (.symbol "%", one)
  else match openOperators.find? (startsWith · c.rest) with
    | some spelling => .ok (operator d spelling (c.skip spelling.length))
    | none => match closedOperators.find? (startsWith · c.rest) with
      | some spelling => .ok (.symbol (canonicalOperator spelling), c.skip spelling.length)
      | none =>
        if d.startsIdentifier ch then .ok (identifierOrNumber d [ch] one)
        else if ch = '$' then dollarValue d c
        else if Text.isBlank ch then .ok (.space, one)
        else .ok (.symbol ch.toString, one)

/-- The tokens from the cursor on; `fuel` bounds the characters left. -/
def lexFrom (d : Dialect) : Nat → Cursor → Except LexError (List Lexeme)
  | 0, _ => .ok []
  | fuel + 1, c =>
    match c.peek? with
    | none => .ok []
    | some ch => do
      let (token, rest) ← scanToken d ch c
      let tail ← lexFrom d fuel rest
      return ⟨token, c.place⟩ :: tail

/-- The tokens of a text. -/
def lex (d : Dialect) (s : String) : Except LexError (List Lexeme) :=
  let cs := s.toList
  lexFrom d (cs.length + 1) (Cursor.start cs)

end SqlLineage.Sql
