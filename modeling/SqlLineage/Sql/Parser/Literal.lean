import SqlLineage.Sql.Parser.Name

/-! Literal values and how they are written back. -/

namespace SqlLineage.Sql

/-- A text for an escaped literal. -/
def escapeText (s : String) : String :=
  String.ofList (s.toList.flatMap fun c =>
    if c = '\'' then ['\\', '\'']
    else if c = '\\' then ['\\', '\\']
    else if c = '\n' then ['\\', 'n']
    else if c = '\t' then ['\\', 't']
    else if c = '\r' then ['\\', 'r']
    else [c])

/-- A number in upper-case hexadecimal digits, at least `width` of them. -/
def hexDigits (width n : Nat) : List Char :=
  let digits := (Nat.toDigits 16 n).map Char.toUpper
  List.replicate (width - digits.length) '0' ++ digits

/-- A text for a literal of code points. -/
def unicodeText (s : String) : String :=
  String.ofList (s.toList.flatMap fun c =>
    if c = '\'' then ['\'', '\'']
    else if c = '\\' then ['\\', '\\']
    else if c.toNat < 0x80 then [c]
    else if c.toNat < 0x10000 then '\\' :: hexDigits 4 c.toNat
    else '\\' :: '+' :: hexDigits 6 c.toNat)

/-- A string literal in its canonical spelling. -/
def stringText (form : StringForm) (value : String) : String :=
  let body := match form with
    | .single => doubleQuotes '\'' value
    | .double => doubleQuotes '"' value
    | .escaped => escapeText value
    | .unicode => unicodeText value
    | _ => value
  form.marks.1 ++ body ++ form.marks.2

def singleQuoted (s : String) : String := stringText .single s

namespace Parser

def digitsToNat (cs : List Char) : Nat := cs.foldl (fun n c => n * 10 + (c.toNat - 48)) 0

/-- The value of a number that is written with decimal digits only and fits in `bits` bits; a
message about it ends with `place`. -/
def countOf (bits : Nat) (digits place : String) : Parser Nat := do
  let cs := digits.toList
  let problem reason := fail (.unexpected ("Could not parse '" ++ digits ++ "' as u" ++
    toString bits ++ ": " ++ reason ++ place))
  if cs.isEmpty || !cs.all Dialect.isDigit then problem "invalid digit found in string"
  else if Nat.pow 2 bits ≤ digitsToNat cs then problem "number too large to fit in target type"
  else return digitsToNat cs

/-- A count, as it is read where nothing else may stand. -/
def literalCount : Parser Nat := do
  let found ← next
  match tokenOf found with
  | some (.number digits _) => countOf 64 digits (placeText found)
  | _ => expected "literal int" found

def countPhrase : Parser Phrase := return toString (← literalCount)

/-- A string; a word that is no keyword stands for one too. -/
def literalString : Parser String := do
  let d ← dialect
  let found ← next
  match tokenOf found with
  | some t@(.word value _ _) =>
    if isPlainWord t then return value else expected "literal string" found
  | some (.text .single value) | some (.text .double value) | some (.text .unicode value) =>
    return value
  | some (.text .escaped value) =>
    if d == .postgres || d == .generic then return value else expected "literal string" found
  | _ => expected "literal string" found

def quotedLiteral : Parser Phrase := return singleQuoted (← literalString)

/-- A string between quotes that are not doubled inside it. -/
def rawLiteral : Parser Phrase := return Phrase.word ("'" ++ (← literalString) ++ "'")

/-- The name of a placeholder after its mark. -/
def placeholderName : Parser String := do
  let found ← next
  match tokenOf found with
  | some (.word value _ _) | some (.number value false) => return value
  | _ => expected "placeholder" found

/-- A literal value. -/
def value : Parser Phrase := do
  let d ← dialect
  let found ← next
  match tokenOf found with
  | some (.word value k quote) =>
    if k == "TRUE" && d.booleanLiterals then return "true"
    else if k == "FALSE" && d.booleanLiterals then return "false"
    else if k == "NULL" then return "NULL"
    else match quote with
      | some '"' => return stringText .double value
      | some _ => expected "A value?" found
      | none => expected "a concrete value" found
  | some (.number digits long) => return if long then digits ++ "L" else digits
  | some (.text form value) => return stringText form value
  | some t@(.dollarText ..) => return t.render
  | some (.placeholder spelling) => return spelling
  | some (.symbol ":") => return ":" ++ (← placeholderName)
  | some (.symbol "@") => return "@" ++ (← placeholderName)
  | _ => expected "a value" found

/-- A number or what stands for one. -/
def numberValue : Parser Phrase := do
  let start ← rest
  let found ← peek
  let text ← value
  match tokenOf found with
  | some (.number ..) | some (.placeholder _) | some (.symbol ":") | some (.symbol "@") =>
    return text
  | _ =>
    resume start
    expected "literal number" found

/-- A word taken as a string, or a string literal. -/
def introducedValue : Parser Phrase := do
  let found ← next
  match tokenOf found with
  | some (.text .single value) => return stringText .single value
  | some (.text .double value) => return stringText .double value
  | some (.text .hex value) => return stringText .hex value
  | _ => expected "a string value" found

end Parser
end SqlLineage.Sql
