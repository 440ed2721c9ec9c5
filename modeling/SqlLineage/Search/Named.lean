import SqlLineage.Search.CharSet

/-! Names of character sets, as patterns write them. -/

namespace SqlLineage.Search

/-- Letter case, blanks and joining marks do not count in names, nor does a leading "is". -/
def plainName (name : String) : String :=
  let letters := name.toList.filter fun c =>
    c.toNat < 0x80 && c != ' ' && c != '_' && c != '-'
  match letters.map Char.toLower with
  | 'i' :: 's' :: rest => String.ofList rest
  | letters => String.ofList letters

open Text.Category in
/-- The categories by their short and long names. -/
def categoryNames : List (List String × List Text.Category) :=
  let l := [uppercaseLetter, lowercaseLetter, titlecaseLetter]
  let m := [nonspacingMark, spacingMark, enclosingMark]
  let n := [decimalNumber, letterNumber, otherNumber]
  let p := [connectorPunctuation, dashPunctuation, openPunctuation, closePunctuation,
    initialPunctuation, finalPunctuation, otherPunctuation]
  let s := [mathSymbol, currencySymbol, modifierSymbol, otherSymbol]
  let z := [spaceSeparator, lineSeparator, paragraphSeparator]
  let c := [control, format, privateUse, unassigned]
  [(["l", "letter"], l ++ [modifierLetter, otherLetter]), (["lc", "casedletter"], l),
    (["lu", "uppercaseletter"], [uppercaseLetter]), (["ll", "lowercaseletter"], [lowercaseLetter]),
    (["lt", "titlecaseletter"], [titlecaseLetter]), (["lm", "modifierletter"], [modifierLetter]),
    (["lo", "otherletter"], [otherLetter]), (["m", "mark", "combiningmark"], m),
    (["mn", "nonspacingmark"], [nonspacingMark]), (["mc", "spacingmark"], [spacingMark]),
    (["me", "enclosingmark"], [enclosingMark]), (["n", "number"], n),
    (["nd", "decimalnumber", "digit"], [decimalNumber]), (["nl", "letternumber"], [letterNumber]),
    (["no", "othernumber"], [otherNumber]), (["p", "punctuation", "punct"], p),
    (["pc", "connectorpunctuation"], [connectorPunctuation]),
    (["pd", "dashpunctuation"], [dashPunctuation]), (["ps", "openpunctuation"], [openPunctuation]),
    (["pe", "closepunctuation"], [closePunctuation]),
    (["pi", "initialpunctuation"], [initialPunctuation]),
    (["pf", "finalpunctuation"], [finalPunctuation]),
    (["po", "otherpunctuation"], [otherPunctuation]), (["s", "symbol"], s),
    (["sm", "mathsymbol"], [mathSymbol]), (["sc", "currencysymbol"], [currencySymbol]),
    (["sk", "modifiersymbol"], [modifierSymbol]), (["so", "othersymbol"], [otherSymbol]),
    (["z", "separator"], z), (["zs", "spaceseparator"], [spaceSeparator]),
    (["zl", "lineseparator"], [lineSeparator]),
    (["zp", "paragraphseparator"], [paragraphSeparator]),
    (["c", "other"], c), (["cc", "control", "cntrl"], [control]), (["cf", "format"], [format]),
    (["co", "privateuse"], [privateUse]), (["cn", "unassigned"], [unassigned])]

/-- Characters in upper case that are no letters. -/
def otherUpper : List Text.CodeRange :=
  [(0x2160, 0x216F), (0x24B6, 0x24CF), (0x1F130, 0x1F149), (0x1F150, 0x1F169), (0x1F170, 0x1F189)]

/-- Characters in lower case of other categories than lower-case letters. -/
def otherLower : List Text.CodeRange := [
  (0xAA, 0xAA), (0xBA, 0xBA), (0x2B0, 0x2B8), (0x2C0, 0x2C1), (0x2E0, 0x2E4), (0x345, 0x345),
  (0x37A, 0x37A), (0x10FC, 0x10FC), (0x1D2C, 0x1D6A), (0x1D78, 0x1D78), (0x1D9B, 0x1DBF),
  (0x2071, 0x2071), (0x207F, 0x207F), (0x2090, 0x209C), (0x2170, 0x217F), (0x24D0, 0x24E9),
  (0x2C7C, 0x2C7D), (0xA69C, 0xA69D), (0xA770, 0xA770), (0xA7F2, 0xA7F4), (0xA7F8, 0xA7F9),
  (0xAB5C, 0xAB5F), (0xAB69, 0xAB69), (0x10780, 0x10780), (0x10783, 0x10785), (0x10787, 0x107B0),
  (0x107B2, 0x107BA), (0x1E030, 0x1E06D)]

namespace CharSet

def any : CharSet := complement nothing

def otherNames : List (List String × CharSet) :=
  [(["any"], any), (["assigned"], complement (property (.category .unassigned))),
    (["ascii"], range 0 0x7F)]

/-- A general category by its name. -/
def ofCategory? (name : String) : Option CharSet :=
  let name := plainName name
  match categoryNames.find? (·.1.contains name) with
  | some (_, cs) => some (categories cs)
  | none => (otherNames.find? (·.1.contains name)).map (·.2)

def propertyNames : List (List String × CharSet) :=
  [(["alphabetic", "alpha"], property .alphabetic),
    (["whitespace", "wspace", "space"], property .blank),
    (["uppercase", "upper"], union (categories [.uppercaseLetter]) (ofRanges otherUpper)),
    (["lowercase", "lower"], union (categories [.lowercaseLetter]) (ofRanges otherLower)),
    (["asciihexdigit", "ahex"], ofRanges [(0x30, 0x39), (0x41, 0x46), (0x61, 0x66)])]

/-- A property or a category by its name. -/
def named? (name : String) : Option CharSet :=
  match propertyNames.find? (·.1.contains (plainName name)) with
  | some (_, s) => some s
  | none => ofCategory? name

end CharSet

/-- The name says that a category follows. -/
def isCategoryName (name : String) : Bool := ["generalcategory", "gc"].contains (plainName name)

end SqlLineage.Search
