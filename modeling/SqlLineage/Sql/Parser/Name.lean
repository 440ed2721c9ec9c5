import SqlLineage.Sql.Dialect.Grammar
import SqlLineage.Sql.Parser.Basic
import SqlLineage.Text.Split

/-! Identifiers, dotted names and aliases. -/

namespace SqlLineage.Sql.Parser

def identOf? : Token → Option Ident
  | .word value _ quote => some ⟨value, quote⟩
  | .text .single value => some ⟨value, some '\''⟩
  | .text .double value => some ⟨value, some '"'⟩
  | _ => none

def identifier : Parser Ident := do
  let found ← next
  match found.bind fun l => identOf? l.token with
  | some i => return i
  | none => expected "identifier" found

def identPhrase : Parser Phrase := return (← identifier).render

/-- The rest of a name in which hyphens join bare words and numbers, and whether a period followed
that is part of the last number. -/
def hyphenatedTail (start : Ident) : Parser (Ident × Bool) := do
  let (name, ended, blankNeeded) ← loop (start, false, false) fun (name, ended, blankNeeded) => do
    if ended || !isSymbol "-" (← peekRaw) then return none
    let _ ← nextRaw
    let found ← nextRaw
    match tokenOf found with
    | some (.word value _ none) =>
      return some (⟨name.value ++ "-" ++ value, none⟩, false, false)
    | some (.number digits false) =>
      if digits.toList.getLast? = some '.' then
        let whole := digits.toList.takeWhile (· != '.')
        if whole.isEmpty || !whole.all Dialect.isDigit then
          expected "continuation of hyphenated identifier" found
        return some (⟨name.value ++ "-" ++ String.ofList whole, none⟩, true, blankNeeded)
      return some (⟨name.value ++ "-" ++ digits, none⟩, false, !(← peekSymbol "."))
    | _ => expected "continuation of hyphenated identifier" found
  if blankNeeded && !ended then
    let found ← next
    if found.isSome then expected "whitespace following hyphenated identifier" found
  return (name, ended)

def hyphenatedIdentifier : Parser (Ident × Bool) := do
  match ← peekToken with
  | some (.word value _ none) =>
    let _ ← next
    hyphenatedTail ⟨value, none⟩
  | _ => return (← identifier, false)

/-- A delimited identifier with periods inside counts as several. -/
def splitIdent (i : Ident) : List Ident :=
  (Text.splitAtChar '.' i.value.toList).map fun part => ⟨String.ofList part, i.quote⟩

/-- The parts of a dotted name, each read by `part`; in some dialects two periods leave one out. -/
def dottedParts (part : Parser Ident) : Parser (List Ident) := do
  let d ← dialect
  let first ← part
  let names ← loop [first] fun names => do
    if !(← symbol ".") then return none
    if ← given (d.doubleDotNames && names.length == 1) (symbol ".") then
      return some ((← part) :: Ident.bare "" :: names)
    return some ((← part) :: names)
  return names.reverse

def hyphenatedParts : Parser (List Ident) := do
  let first ← hyphenatedIdentifier
  let names ← loop ([first.1], first.2) fun (names, ended) => do
    if !(← symbol ".") && !ended then return none
    let (name, ended) ← hyphenatedIdentifier
    return some (name :: names, ended)
  return names.1.reverse

def splitParts (parts : Parser (List Ident)) : Parser ObjectName := do
  let names ← parts
  if (← dialect).hyphenatedNames && names.any (·.value.toList.contains '.') then
    return names.flatMap splitIdent
  return names

/-- A dotted name; `inFrom` where it names a table of a FROM clause. -/
def objectNameIn (inFrom : Bool) : Parser ObjectName := do
  splitParts (if (← dialect).hyphenatedNames && inFrom then hyphenatedParts
    else dottedParts identifier)

def objectName : Parser ObjectName := objectNameIn false

def namePhrase : Parser Phrase := return (← objectName).render

/-- A dotted name in which an asterisk stands for any name. -/
def starredName : Parser Phrase := do
  let part : Parser Ident := do
    if ← symbol "*" then return Ident.bare "*" else identifier
  return (← splitParts (dottedParts part)).render

/-- The name of somebody, and the host that may follow it. -/
def granteeName : Parser (ObjectName × Option Ident) := do
  let name ← objectName
  if ← given ((← dialect).userAtHost && name.length == 1) (symbol "@") then
    return (name, some (← identifier))
  return (name, none)

def granteeText (name : ObjectName) : Option Ident → String
  | some host => name.render ++ "@" ++ host.render
  | none => name.render

/-! ### Aliases -/

/-- An alias: any word after AS, and without AS one that `accepts` takes, which is given its keyword
and the token that follows it. -/
def aliasWhere (accepts : String → Option Token → Bool) : Parser (Option Ident) := do
  let afterAs ← keyword "AS"
  let start ← rest
  let found ← next
  match tokenOf found with
  | some (.word value k quote) =>
    if afterAs || accepts k (← peekToken) then return some ⟨value, quote⟩
    resume start
    return none
  | some (.text .single value) => return some ⟨value, some '\''⟩
  | some (.text .double value) => return some ⟨value, some '"'⟩
  | _ =>
    if afterAs then expected "an identifier after AS" found
    resume start
    return none

/-- An alias that without AS is no reserved word. -/
def optionalAlias (reserved : List String) : Parser (Option Ident) :=
  aliasWhere fun k _ => !reserved.contains k

/-- Identifiers in parentheses. -/
def columnList : Parser (List Ident) := parens (commaSeparated identifier)

def identList (is : List Ident) : Phrase := Phrase.list (is.map fun i => i.render)

/-- A list of columns, if one is there; `emptyAllowed` accepts one without columns. -/
def optionalColumns (emptyAllowed : Bool) : Parser (List Ident) := do
  if !(← symbol "(") then return []
  if ← given emptyAllowed (symbol ")") then return []
  let columns ← commaSeparated identifier
  expectSymbol ")"
  return columns

def requiredColumns : Parser (List Ident) := do
  if ← peekSymbol "(" then optionalColumns false
  else expectedNext "a list of columns in parentheses"

/-! ### Flags -/

/-- The keywords as text if they are next. -/
def flag (ks : List String) : Parser Phrase := do
  if ← keywordRun ks then return Phrase.word (" ".intercalate ks) else return Phrase.empty

/-- The first of the runs of keywords that is next, as it is written back. -/
def firstRun : List (List String) → Parser Phrase
  | [] => return Phrase.empty
  | ks :: runs => do
    if ← keywordRun ks then return Phrase.word (" ".intercalate ks)
    firstRun runs

def ifExists : Parser Phrase := flag ["IF", "EXISTS"]

def ifNotExists : Parser Phrase := flag ["IF", "NOT", "EXISTS"]

end SqlLineage.Sql.Parser
