import SqlLineage.Text.Blank
import SqlLineage.Text.Split

/-! Cutting a script into statements. A semicolon ends a statement unless it stands in a quoted
literal or name, in a comment, or in a dollar quoted body. -/

namespace SqlLineage.Script

/-- What the next character belongs to. -/
inductive Mode
  | code
  | quoted (quote : Char)
  /-- After a backslash in a literal. -/
  | escaped (quote : Char)
  | lineComment
  | blockComment
  /-- In a body that ends with `tag`. -/
  | dollar (tag : List Char)
  /-- The next `count + 1` characters belong to a mark that is already recognized. -/
  | mark (count : Nat) (next : Mode)
  deriving DecidableEq, Repr

def isTagCharacter (c : Char) : Bool := c.isAlphanum || c == '_'

/-- The tag that a dollar sign opens, given what follows the sign. A digit opens no tag. -/
def tagAfter? (cs : List Char) : Option (List Char) :=
  if (cs.head?.any Char.isDigit) then none
  else if (cs.dropWhile isTagCharacter).head? = some '$' then
    some ('$' :: cs.takeWhile isTagCharacter ++ ['$'])
  else none

/-- The mode once `count` more characters are read. -/
def Mode.after (count : Nat) (next : Mode) : Mode :=
  match count with
  | 0 => next
  | n + 1 => .mark n next

/-- The mode after `c` in a literal or name between quotes. -/
def quotedStep (escapes : Bool) (quote c : Char) : Mode :=
  if escapes && c == '\\' then .escaped quote
  else if c = quote then .code
  else .quoted quote

/-- The mode after `c` outside quotes and comments, with `rest` to follow. -/
def codeStep (c : Char) (rest : List Char) : Mode :=
  if c = '\'' || c = '"' || c = '\x60' then .quoted c
  else if c = '-' && rest.head? = some '-' then .lineComment
  else if c = '/' && rest.head? = some '*' then .mark 0 .blockComment
  else if c = '$' then
    match tagAfter? rest with
    | some tag => .after (tag.length - 1) (.dollar tag)
    | none => .code
  else .code

/-- The mode after `c`, with `rest` to follow. -/
def Mode.step (escapes : Bool) (mode : Mode) (c : Char) (rest : List Char) : Mode :=
  match mode with
  | .code => codeStep c rest
  | .quoted quote => quotedStep escapes quote c
  | .escaped quote => .quoted quote
  | .lineComment => if c = '\n' then .code else .lineComment
  | .blockComment =>
    if c = '*' && rest.head? = some '/' then .mark 0 .code else .blockComment
  | .dollar tag =>
    if tag.isPrefixOf (c :: rest) then .after (tag.length - 1) .code else .dollar tag
  | .mark 0 next => next
  | .mark (n + 1) next => .mark n next

/-- The stretches between the semicolons that end a statement. -/
def segments (escapes : Bool) (mode : Mode) : List Char → List (List Char)
  | [] => [[]]
  | c :: rest =>
    if mode = .code && c = ';' then [] :: segments escapes .code rest
    else Text.consFirst c (segments escapes (mode.step escapes c rest) rest)

/-- A statement's text: the segment without the blanks around it, if anything is left. -/
def piece? (segment : List Char) : Option String :=
  match Text.trimChars segment with
  | [] => none
  | cs => some (String.ofList cs)

/-- The statements of a script. With `escapes` a backslash in a literal protects the next
character. -/
def split (escapes : Bool) (sql : String) : List String :=
  (segments escapes .code sql.toList).filterMap piece?

end SqlLineage.Script
