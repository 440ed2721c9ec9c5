import SqlLineage.Text.Category

/-! Numeric characters: decimal digits, letter numbers and other numbers. -/

namespace SqlLineage.Text

def isNumeric (c : Char) : Bool :=
  if c.toNat < 0x80 then c.isDigit
  else [Category.decimalNumber, .letterNumber, .otherNumber].any (·.isIn c)

end SqlLineage.Text
