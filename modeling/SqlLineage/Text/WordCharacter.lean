import SqlLineage.Text.Alphabetic
import SqlLineage.Text.Category

/-! Word characters: alphabetic characters, marks, decimal digits, connector punctuation and
joiners. A word boundary lies between two characters of which exactly one is such a character. -/

namespace SqlLineage.Text

/-- The categories whose characters belong to words, be they alphabetic or not. -/
def wordCategories : List Category :=
  [.nonspacingMark, .spacingMark, .enclosingMark, .decimalNumber, .connectorPunctuation]

def isJoiner (c : Char) : Bool := c == '\u200c' || c == '\u200d'

def isWordCharacter (c : Char) : Bool :=
  if c.toNat < 0x80 then c.isAlphanum || c == '_'
  else isAlphabetic c || isJoiner c || wordCategories.any (·.isIn c)

end SqlLineage.Text
