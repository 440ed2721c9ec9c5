import SqlLineage.Json.Value
import SqlLineage.Number.Shortest

/-! JSON as text: on one line, or with one item a line and two blanks for each level. -/

namespace SqlLineage.Json

def hexDigit (n : Nat) : Char :=
  if n < 10 then Char.ofNat ('0'.toNat + n) else Char.ofNat ('a'.toNat + n - 10)

/-- A character as it stands in a string. -/
def escapeChar (c : Char) : List Char :=
  if c = '"' then ['\\', '"']
  else if c = '\\' then ['\\', '\\']
  else if c = '\n' then ['\\', 'n']
  else if c = '\r' then ['\\', 'r']
  else if c = '\t' then ['\\', 't']
  else if c = '\x08' then ['\\', 'b']
  else if c = '\x0c' then ['\\', 'f']
  else if c.toNat < 32 then
    ['\\', 'u', '0', '0', hexDigit (c.toNat / 16), hexDigit (c.toNat % 16)]
  else [c]

def quote (s : String) : List Char := '"' :: s.toList.flatMap escapeChar ++ ['"']

def natText (n : Nat) : List Char := Nat.toDigits 10 n

def intText : Int → List Char
  | .ofNat n => natText n
  | .negSucc n => '-' :: natText (n + 1)

/-- Digits with the point after `point` of them, from five places before the digits to sixteen
places behind the first; elsewhere with an exponent. -/
def decimalText (digits : List Char) (point : Int) : List Char :=
  let zeros (n : Int) : List Char := List.replicate n.toNat '0'
  if 0 < point && point ≤ 16 then
    if (digits.length : Int) ≤ point then digits ++ zeros (point - digits.length) ++ ['.', '0']
    else digits.take point.toNat ++ '.' :: digits.drop point.toNat
  else if -5 < point && point ≤ 0 then '0' :: '.' :: zeros (-point) ++ digits
  else
    let others := if digits.length ≤ 1 then [] else '.' :: digits.drop 1
    let sign := if 0 < point then ['+'] else []
    digits.take 1 ++ others ++ 'e' :: sign ++ intText (point - 1)

/-- A floating point number in the fewest digits that read back; what is not finite is null. -/
def floatingText : Number.Binary → List Char
  | .finite negative m q =>
    let d := Number.Binary.shortest .toEven m q
    let digits := d.text
    let sign := if negative then ['-'] else []
    sign ++ decimalText digits (digits.length + d.exponent)
  | _ => ['n', 'u', 'l', 'l']

def word (s : String) : List Char := s.toList

/-- A line break and the blanks before an item at a level. -/
def newLine (level : Nat) : List Char := '\n' :: List.replicate (2 * level) ' '

mutual

def prettyChars (level : Nat) : Json → List Char
  | null => word "null"
  | bool true => word "true"
  | bool false => word "false"
  | integer i => intText i
  | floating x => floatingText x
  | string s => quote s
  | array [] => word "[]"
  | array items => '[' :: prettyItems (level + 1) items ++ newLine level ++ [']']
  | object [] => word "\x7b\x7d"
  | object members => '\x7b' :: prettyMembers (level + 1) members ++ newLine level ++ ['\x7d']

/-- Items, each on a new line, with commas between. -/
def prettyItems (level : Nat) : List Json → List Char
  | [] => []
  | [item] => newLine level ++ prettyChars level item
  | item :: rest => newLine level ++ prettyChars level item ++ ',' :: prettyItems level rest

def prettyMembers (level : Nat) : List (String × Json) → List Char
  | [] => []
  | [(key, value)] => newLine level ++ quote key ++ ':' :: ' ' :: prettyChars level value
  | (key, value) :: rest =>
    newLine level ++ quote key ++ ':' :: ' ' :: prettyChars level value ++
      ',' :: prettyMembers level rest

end

def pretty (j : Json) : String := String.ofList (prettyChars 0 j)

mutual

def compactChars : Json → List Char
  | null => word "null"
  | bool true => word "true"
  | bool false => word "false"
  | integer i => intText i
  | floating x => floatingText x
  | string s => quote s
  | array items => '[' :: compactItems items ++ [']']
  | object members => '\x7b' :: compactMembers members ++ ['\x7d']

def compactItems : List Json → List Char
  | [] => []
  | [item] => compactChars item
  | item :: rest => compactChars item ++ ',' :: compactItems rest

def compactMembers : List (String × Json) → List Char
  | [] => []
  | [(key, value)] => quote key ++ ':' :: compactChars value
  | (key, value) :: rest =>
    quote key ++ ':' :: compactChars value ++ ',' :: compactMembers rest

end

def compact (j : Json) : String := String.ofList (compactChars j)

end SqlLineage.Json
