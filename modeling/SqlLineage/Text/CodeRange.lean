/-! Classes of characters given by ranges of code points. -/

namespace SqlLineage.Text

/-- First and last code point of a range. -/
abbrev CodeRange := Nat × Nat

def inRanges (ranges : List CodeRange) (c : Char) : Bool :=
  ranges.any fun r => r.1 ≤ c.toNat && c.toNat ≤ r.2

end SqlLineage.Text
