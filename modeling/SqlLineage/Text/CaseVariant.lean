import SqlLineage.Text.LowerCase

/-! Characters that differ only in case. -/

namespace SqlLineage.Text

/-- Characters that count as another one, although they are in lower case. -/
def foldedLetters : List (Nat × Nat) := [
  (0xB5, 0x3BC), (0x17F, 0x73), (0x345, 0x3B9), (0x3C2, 0x3C3), (0x3D0, 0x3B2), (0x3D1, 0x3B8),
  (0x3D5, 0x3C6), (0x3D6, 0x3C0), (0x3F0, 0x3BA), (0x3F1, 0x3C1), (0x3F5, 0x3B5), (0x1C80, 0x432),
  (0x1C81, 0x434), (0x1C82, 0x43E), (0x1C83, 0x441), (0x1C84, 0x442), (0x1C85, 0x442),
  (0x1C86, 0x44A), (0x1C87, 0x463), (0x1C88, 0xA64B), (0x1E9B, 0x1E61), (0x1FBE, 0x3B9),
  (0x1FD3, 0x390), (0x1FE3, 0x3B0), (0xFB05, 0xFB06)]

/-- One character for all those that differ only in case. -/
def foldChar (c : Char) : Char :=
  match foldedLetters.lookup c.toNat with
  | some n => Char.ofNat n
  | none =>
    match lowerChar c with
    | [d] => d
    | _ => c

/-- The code point of the run whose lower case is `n`. -/
def LowerRun.upper? (r : LowerRun) (n : Nat) : Option Nat :=
  let m := r.lo + (n - r.image)
  if r.image ≤ n && m ≤ r.hi && (n - r.image) % r.step == 0 then some m else none

/-- All characters that differ from `c` only in case, and `c`. -/
def caseVariants (c : Char) : List Char :=
  let n := (foldChar c).toNat
  let others := (foldedLetters.filter (·.2 == n)).map (·.1)
  (n :: lowerRuns.filterMap (·.upper? n) ++ others).map Char.ofNat

end SqlLineage.Text
