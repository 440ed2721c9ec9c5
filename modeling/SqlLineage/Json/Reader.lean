import SqlLineage.Json.Value

/-! Reading JSON text. Each reader takes what it reads off the front of the text. -/

namespace SqlLineage.Json

def isJsonBlank (c : Char) : Bool := c == ' ' || c == '\n' || c == '\r' || c == '\t'

def skipBlanks (cs : List Char) : List Char := cs.dropWhile isJsonBlank

def hexValue? (c : Char) : Option Nat :=
  if '0' ≤ c && c ≤ '9' then some (c.toNat - '0'.toNat)
  else if 'a' ≤ c && c ≤ 'f' then some (c.toNat - 'a'.toNat + 10)
  else if 'A' ≤ c && c ≤ 'F' then some (c.toNat - 'A'.toNat + 10)
  else none

def hexFour? (a b c d : Char) : Option Nat := do
  return ((← hexValue? a) * 16 + (← hexValue? b)) * 256 + (← hexValue? c) * 16 + (← hexValue? d)

def isHighSurrogate (n : Nat) : Bool := 0xD800 ≤ n && n < 0xDC00

def isLowSurrogate (n : Nat) : Bool := 0xDC00 ≤ n && n < 0xE000

/-- The character that a letter after a backslash stands for. -/
def escaped? (c : Char) : Option Char :=
  if c = '"' || c = '\\' || c = '/' then some c
  else if c = 'n' then some '\n'
  else if c = 'r' then some '\r'
  else if c = 't' then some '\t'
  else if c = 'b' then some '\x08'
  else if c = 'f' then some '\x0c'
  else none

/-- The rest of a string after its opening quote. Characters above the first plane are written as
two surrogates. -/
def stringBody? : List Char → Option (List Char × List Char)
  | '"' :: rest => some ([], rest)
  | '\\' :: 'u' :: a :: b :: c :: d :: rest => do
    let code ← hexFour? a b c d
    if isLowSurrogate code then none
    else if isHighSurrogate code then
      match rest with
      | '\\' :: 'u' :: e :: f :: g :: h :: rest =>
        let low ← hexFour? e f g h
        if !isLowSurrogate low then none
        else
          let (text, rest) ← stringBody? rest
          some (Char.ofNat ((code - 0xD800) * 0x400 + (low - 0xDC00) + 0x10000) :: text, rest)
      | _ => none
    else
      let (text, rest) ← stringBody? rest
      some (Char.ofNat code :: text, rest)
  | '\\' :: c :: rest => do
    let c ← escaped? c
    let (text, rest) ← stringBody? rest
    some (c :: text, rest)
  | c :: rest => do
    if c.toNat < 32 then none
    let (text, rest) ← stringBody? rest
    some (c :: text, rest)
  | [] => none

/-- The number that digits write. -/
def natOfDigits (digits : List Char) : Nat :=
  digits.foldl (fun n c => 10 * n + (c.toNat - '0'.toNat)) 0

/-- The greatest whole number. -/
def wholeLimit : Nat := 18446744073709551615

/-- The number that `start` and the digits after it write, as far as it is a whole number, and how
many digits are left over. -/
def significand (start : Nat) : List Char → Nat × Nat
  | [] => (start, 0)
  | c :: rest =>
    let n := 10 * start + (c.toNat - '0'.toNat)
    if wholeLimit < n then (start, rest.length + 1) else significand n rest

/-- A whole number times a power of ten. Both are rounded, and so is their product, which is why
the last digit may differ from the nearest number. Powers beyond the table are divided out in
steps; `fuel` bounds these. -/
def floatOf (f : Number.Binary) (exponent : Int) : Nat → Number.Binary
  | 0 => .zero false
  | fuel + 1 =>
    if 308 < exponent then if f.isZero then f else .infinite false
    else if 0 ≤ exponent then f.mul (.tenTo exponent.toNat)
    else if -308 ≤ exponent then f.div (.tenTo (-exponent).toNat)
    else if f.isZero then f
    else floatOf (f.div (.tenTo 308)) (exponent + 308) fuel

/-- A floating point number, unless it is too great for one. -/
def floating? (negative : Bool) (digits : Nat) (exponent : Int) : Option Json :=
  let f := floatOf (.ofNat digits) exponent 8
  if f.isFinite then some (floating (if negative then f.negate else f)) else none

/-- A whole number, or the floating point number nearest to one that is out of range. A zero with a
sign is of the second kind. -/
def whole? (negative : Bool) (digits : List Char) : Option Json :=
  match significand 0 digits with
  | (n, 0) =>
    if !negative then some (integer n)
    else if n == 0 || 9223372036854775808 < n then floating? true n 0
    else some (integer (-(n : Int)))
  | (n, dropped) => floating? negative n dropped

/-- One or more digits. -/
def digits? (cs : List Char) : Option (List Char × List Char) :=
  match cs.takeWhile Char.isDigit with
  | [] => none
  | digits => some (digits, cs.dropWhile Char.isDigit)

def signed (negative : Bool) (n : Nat) : Int := if negative then -(n : Int) else n

/-- The power of ten at the end of a number. -/
def exponent? : List Char → Option (Int × List Char)
  | '-' :: rest => do
    let (digits, rest) ← digits? rest
    some (signed true (natOfDigits digits), rest)
  | '+' :: rest => do
    let (digits, rest) ← digits? rest
    some (signed false (natOfDigits digits), rest)
  | rest => do
    let (digits, rest) ← digits? rest
    some (signed false (natOfDigits digits), rest)

/-- A number after its sign. -/
def number? (negative : Bool) (cs : List Char) : Option (Json × List Char) := do
  let (whole, rest) ← digits? cs
  if whole.length > 1 && whole.head? = some '0' then none
  let (places, rest, pointed) ← match rest with
    | '.' :: rest => (digits? rest).map fun (places, rest) => (places, rest, true)
    | rest => some ([], rest, false)
  let (n, dropped) := significand 0 whole
  let (n, ignored) := significand n places
  let shift : Int := dropped - (places.length - ignored : Nat)
  let plain := if pointed then floating? negative n shift else whole? negative whole
  match rest with
  | c :: rest' =>
    if c = 'e' || c = 'E' then
      let (power, rest) ← exponent? rest'
      some (← floating? negative n (shift + power), rest)
    else some (← plain, rest)
  | [] => some (← plain, rest)

mutual

/-- A value; `fuel` bounds the values and separators to come. -/
def value? (fuel : Nat) (cs : List Char) : Option (Json × List Char) :=
  match fuel with
  | 0 => none
  | fuel + 1 =>
    match skipBlanks cs with
    | 'n' :: 'u' :: 'l' :: 'l' :: rest => some (null, rest)
    | 't' :: 'r' :: 'u' :: 'e' :: rest => some (bool true, rest)
    | 'f' :: 'a' :: 'l' :: 's' :: 'e' :: rest => some (bool false, rest)
    | '"' :: rest => (stringBody? rest).map fun (text, rest) => (string (String.ofList text), rest)
    | '-' :: rest => number? true rest
    | '[' :: rest =>
      match skipBlanks rest with
      | ']' :: rest => some (array [], rest)
      | rest => (items? fuel rest).map fun (items, rest) => (array items, rest)
    | '\x7b' :: rest =>
      match skipBlanks rest with
      | '\x7d' :: rest => some (object [], rest)
      | rest => (members? fuel rest).map fun (members, rest) => (object members, rest)
    | rest => number? false rest

/-- One or more items and the bracket after them. -/
def items? (fuel : Nat) (cs : List Char) : Option (List Json × List Char) :=
  match fuel with
  | 0 => none
  | fuel + 1 => do
    let (item, rest) ← value? fuel cs
    match skipBlanks rest with
    | ',' :: rest =>
      let (items, rest) ← items? fuel rest
      some (item :: items, rest)
    | ']' :: rest => some ([item], rest)
    | _ => none

/-- One or more members and the brace after them. -/
def members? (fuel : Nat) (cs : List Char) : Option (List (String × Json) × List Char) :=
  match fuel with
  | 0 => none
  | fuel + 1 =>
    match skipBlanks cs with
    | '"' :: rest => do
      let (key, rest) ← stringBody? rest
      match skipBlanks rest with
      | ':' :: rest =>
        let (value, rest) ← value? fuel rest
        match skipBlanks rest with
        | ',' :: rest =>
          let (members, rest) ← members? fuel rest
          some ((String.ofList key, value) :: members, rest)
        | '\x7d' :: rest => some ([(String.ofList key, value)], rest)
        | _ => none
      | _ => none
    | _ => none

end

/-- The value that a text writes out. -/
def parse? (text : String) : Option Json :=
  let cs := text.toList
  match value? (cs.length + 1) cs with
  | some (j, rest) => if (skipBlanks rest).isEmpty then some j else none
  | none => none

end SqlLineage.Json
