import SqlLineage.Number.Binary

/-! The fewest decimal digits that read back as the same number, the nearest ones of those. -/

namespace SqlLineage.Number

/-- Digits and the power of ten of the last of them. -/
structure Decimal where
  digits : Nat
  exponent : Int
  deriving DecidableEq, Repr

namespace Decimal

/-- The digits as they are written. -/
def text (d : Decimal) : List Char := Nat.toDigits 10 d.digits

/-- Without zeros at the end; `fuel` bounds their number. -/
def trim : Nat → Decimal → Decimal
  | 0, d => d
  | fuel + 1, d =>
    if d.digits != 0 && d.digits % 10 == 0 then trim fuel ⟨d.digits / 10, d.exponent + 1⟩ else d

end Decimal

namespace Binary

/-- Which of two decimals is taken that are equally near. -/
inductive Tie
  | toEven
  | away
  deriving DecidableEq, Repr

/-- The decimals next to `num / den` at one power of ten, the nearer one first. -/
def neighbours (tie : Tie) (num den : Nat) (exponent : Int) : List Decimal :=
  let (n, d) := if 0 ≤ exponent then (num, den * Nat.pow 10 exponent.toNat)
    else (num * Nat.pow 10 (-exponent).toNat, den)
  let below := n / d
  let rest := 2 * (n % d)
  let upper := d < rest || (rest == d && (tie == .away || below % 2 == 1))
  if upper then [⟨below + 1, exponent⟩, ⟨below, exponent⟩]
  else [⟨below, exponent⟩, ⟨below + 1, exponent⟩]

/-- The power of ten of the first digit of a positive quotient. -/
def leadingPower (num den : Nat) : Int :=
  let length (n : Nat) : Int := (Nat.toDigits 10 n).length
  let near := length num - length den
  let fits := if 0 ≤ near then den * Nat.pow 10 near.toNat ≤ num
    else den ≤ num * Nat.pow 10 (-near).toNat
  if fits then near else near - 1

/-- The first of more and more digits that read back as `m` times two to the power of `q`. -/
def search (tie : Tie) (m : Nat) (q : Int) (num den : Nat) (exponent : Int) : Nat → Decimal
  | 0 => ⟨num / den, 0⟩
  | fuel + 1 =>
    let readsBack (d : Decimal) : Bool := ofDecimal false d.digits d.exponent == finite false m q
    match (neighbours tie num den exponent).find? readsBack with
    | some d => d
    | none => search tie m q num den (exponent - 1) fuel

/-- The fewest digits that read back as a finite number without its sign. Seventeen always do. -/
def shortest (tie : Tie) (m : Nat) (q : Int) : Decimal :=
  if m == 0 then ⟨0, 0⟩
  else
    let (num, den) := shifted m q
    (search tie m q num den (leadingPower num den) 17).trim 17

end Binary
end SqlLineage.Number
