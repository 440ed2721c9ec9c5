import SqlLineage.Number.Shortest
import SqlLineage.Text.Message
import SqlLineage.Yaml.Scanner

/-! What a plain scalar is taken for: nothing, a truth value, a number or a text. -/

namespace SqlLineage.Yaml

inductive Scalar
  | null
  | bool (value : Bool)
  | integer (value : Int)
  | floating (value : Number.Binary)
  | string (text : String)
  deriving DecidableEq, Repr

namespace Scalar

def isNull (text : String) : Bool := ["~", "null", "Null", "NULL"].contains text

def bool? (text : String) : Option Bool :=
  if ["true", "True", "TRUE"].contains text then some true
  else if ["false", "False", "FALSE"].contains text then some false
  else none

/-! ### Whole numbers -/

def radixDigits? (radix : Nat) (cs : List Char) : Option Nat :=
  if cs.isEmpty then none
  else cs.foldlM (fun n c =>
    match Scan.hexDigit? c with
    | some v => if v < radix then some (radix * n + v) else none
    | none => none) 0

/-- A number without a sign: decimal without needless zeros, or with the mark of its base. -/
def nat? : List Char → Option Nat
  | '0' :: 'x' :: rest => radixDigits? 16 rest
  | '0' :: 'o' :: rest => radixDigits? 8 rest
  | '0' :: 'b' :: rest => radixDigits? 2 rest
  | '0' :: _ :: _ => none
  | cs => radixDigits? 10 cs

/-- A whole number of at most 128 bits, one of them for the sign of a negative one. -/
def int? (text : String) : Option Int :=
  let natural (cs : List Char) : Option Int := do
    let n ← nat? cs
    if n < Nat.pow 2 128 then some (n : Int) else none
  match text.toList with
  | '-' :: rest => do
    let n ← nat? rest
    if n ≤ Nat.pow 2 127 then some (-(n : Int)) else none
  | '+' :: rest => natural rest
  | cs => natural cs

/-! ### Other numbers -/

/-- Zeros before other digits, perhaps after a sign, write no number. -/
def isPadded (text : String) : Bool :=
  let digits : List Char → Bool
    | '0' :: c :: rest => (c :: rest).all Char.isDigit
    | _ => false
  match text.toList with
  | '-' :: rest | '+' :: rest => digits rest
  | cs => digits cs

def natOfDigits (cs : List Char) : Nat := cs.foldl (fun n c => 10 * n + (c.toNat - 48)) 0

/-- The power of ten at the end of a number. -/
def exponent? : List Char → Option Int
  | [] => some 0
  | e :: rest =>
    if e != 'e' && e != 'E' then none
    else
      let (negative, digits) := match rest with
        | '-' :: digits => (true, digits)
        | '+' :: digits => (false, digits)
        | digits => (false, digits)
      if digits.isEmpty || !digits.all Char.isDigit then none
      else some (if negative then -(natOfDigits digits : Int) else natOfDigits digits)

/-- The digits and the power of ten of a number without a sign. -/
def decimal? (cs : List Char) : Option (Nat × Int) := do
  let whole := cs.takeWhile Char.isDigit
  let (places, rest) := match cs.dropWhile Char.isDigit with
    | '.' :: rest => (rest.takeWhile Char.isDigit, rest.dropWhile Char.isDigit)
    | rest => ([], rest)
  if whole.isEmpty && places.isEmpty then none
  else some (natOfDigits (whole ++ places), (← exponent? rest) - places.length)

def finite? (negative : Bool) (cs : List Char) : Option Number.Binary := do
  let (digits, exponent) ← decimal? cs
  let x := Number.Binary.ofDecimal negative digits exponent
  if x.isFinite then some x else none

def isInfinity (text : String) : Bool := [".inf", ".Inf", ".INF"].contains text

def float? (text : String) : Option Number.Binary :=
  if [".nan", ".NaN", ".NAN"].contains text then some .nan
  else match text.toList with
    | '+' :: rest =>
      if isInfinity (String.ofList rest) then some (.infinite false) else finite? false rest
    | '-' :: rest =>
      if isInfinity (String.ofList rest) then some (.infinite true) else finite? true rest
    | cs => if isInfinity text then some (.infinite false) else finite? false cs

/-- What a plain scalar is taken for. -/
def ofPlain (text : String) : Scalar :=
  if text.isEmpty || isNull text then null
  else match bool? text with
    | some b => bool b
    | none =>
      match int? text with
      | some i => integer i
      | none =>
        if isPadded text then string text
        else match float? text with
          | some x => floating x
          | none => string text

/-! ### Texts -/

/-- All the digits of a number, with a point. -/
def floatingText : Number.Binary → String
  | .nan => "NaN"
  | .infinite negative => if negative then "-inf" else "inf"
  | .finite negative m q =>
    let d := Number.Binary.shortest .away m q
    let digits := d.text
    let point : Int := digits.length + d.exponent
    let zeros (n : Int) : List Char := List.replicate n.toNat '0'
    let text :=
      if point ≤ 0 then '0' :: '.' :: zeros (-point) ++ digits
      else if (digits.length : Int) ≤ point then
        digits ++ zeros (point - digits.length) ++ ['.', '0']
      else digits.take point.toNat ++ '.' :: digits.drop point.toNat
    String.ofList (if negative then '-' :: text else text)

/-- The kind of a whole number that does not fit in 64 bits. -/
def width (i : Int) : String :=
  if (Nat.pow 2 64 : Int) ≤ i then " as u128"
  else if i < -(Nat.pow 2 63 : Int) then " as i128"
  else ""

/-- A scalar as a message names it. -/
def text : Scalar → String
  | null => "unit value"
  | bool b => "boolean " ++ Text.ticked (toString b)
  | integer i => "integer " ++ Text.ticked (toString i) ++ width i
  | floating x => "floating point " ++ Text.ticked (floatingText x)
  | string s => "string " ++ Text.debugText s

end Scalar
end SqlLineage.Yaml
