/-! Binary floating point numbers of double precision, in exact arithmetic: the nearest one to a
quotient, ties going to the even mantissa. -/

namespace SqlLineage.Number

/-- A number is its mantissa times two to the power of its exponent. The mantissa has 53 bits, or
fewer where the exponent is the least one. -/
inductive Binary
  | finite (negative : Bool) (mantissa : Nat) (exponent : Int)
  | infinite (negative : Bool)
  | nan
  deriving DecidableEq, Repr

namespace Binary

def leastExponent : Int := -1074

def greatestExponent : Int := 971

/-- A quotient times two to the power of minus `q`, as a quotient. -/
def scaled (num den : Nat) (q : Int) : Nat × Nat :=
  if 0 ≤ q then (num, den * Nat.pow 2 q.toNat) else (num * Nat.pow 2 (-q).toNat, den)

/-- The exponent under which a positive quotient has 53 bits before its point, but never less than
the least one. -/
def exponentOf (num den : Nat) : Int :=
  let near : Int := (num.log2 : Int) - den.log2 - 52
  let (n, d) := scaled num den near
  max leastExponent (if n / d < Nat.pow 2 52 then near - 1 else near)

/-- A quotient to the nearest whole number, ties to even. -/
def roundQuotient (num den : Nat) : Nat :=
  let whole := num / den
  let rest := 2 * (num % den)
  if rest < den || (rest == den && whole % 2 == 0) then whole else whole + 1

def zero (negative : Bool) : Binary := finite negative 0 leastExponent

/-- The number nearest to a quotient. -/
def ofQuotient (negative : Bool) (num den : Nat) : Binary :=
  if num == 0 then zero negative
  else
    let q := exponentOf num den
    let (n, d) := scaled num den q
    let m := roundQuotient n d
    let (m, q) := if m == Nat.pow 2 53 then (Nat.pow 2 52, q + 1) else (m, q)
    if greatestExponent < q then infinite negative else finite negative m q

def ofNat (n : Nat) : Binary := ofQuotient false n 1

/-- The number nearest to `digits` times ten to the power of `exponent`. What is far out of range
is not worked out. -/
def ofDecimal (negative : Bool) (digits : Nat) (exponent : Int) : Binary :=
  let magnitude : Int := (Nat.toDigits 10 digits).length + exponent
  if digits == 0 || magnitude < -330 then zero negative
  else if 310 < magnitude then infinite negative
  else if 0 ≤ exponent then ofQuotient negative (digits * Nat.pow 10 exponent.toNat) 1
  else ofQuotient negative digits (Nat.pow 10 (-exponent).toNat)

def tenTo (exponent : Nat) : Binary := ofDecimal false 1 exponent

def negate : Binary → Binary
  | finite negative m q => finite (!negative) m q
  | infinite negative => infinite (!negative)
  | nan => nan

def isZero : Binary → Bool
  | finite _ m _ => m == 0
  | _ => false

def isFinite : Binary → Bool
  | finite .. => true
  | _ => false

/-- A number times two to the power of an exponent, as a quotient. -/
def shifted (m : Nat) (q : Int) : Nat × Nat :=
  if 0 ≤ q then (m * Nat.pow 2 q.toNat, 1) else (m, Nat.pow 2 (-q).toNat)

/-- The product of two finite numbers; others have none here. -/
def mul : Binary → Binary → Binary
  | finite a m q, finite b n r =>
    let (num, den) := shifted (m * n) (q + r)
    ofQuotient (a != b) num den
  | _, _ => nan

/-- The quotient of two finite numbers, the second of them not zero. -/
def div : Binary → Binary → Binary
  | finite a m q, finite b n r =>
    let (num, den) := shifted m (q - r)
    ofQuotient (a != b) num (den * n)
  | _, _ => nan

end Binary
end SqlLineage.Number
