import SqlLineage.Text.Blank
import SqlLineage.Text.WordCharacter

/-! Looking for words in a text without regard to case. A reading of the front of a text gives
what follows, or nothing when the text does not start that way. -/

namespace SqlLineage.Text

/-- One letter for all its cases; the long s and the Kelvin sign are cases of s and k. -/
def foldLetter (c : Char) : Char :=
  if c = 'ſ' then 's' else if c = 'K' then 'k' else c.toLower

/-- What follows `word`. -/
def afterWord? : List Char → List Char → Option (List Char)
  | [], cs => some cs
  | _ :: _, [] => none
  | w :: ws, c :: cs => if foldLetter c = foldLetter w then afterWord? ws cs else none

/-- What follows a stretch of one or more blanks. -/
def afterBlanks? : List Char → Option (List Char)
  | [] => none
  | c :: cs => if isBlank c then some (cs.dropWhile isBlank) else none

/-- The words of `ws` with blanks between. -/
def afterWords? : List String → List Char → Option (List Char)
  | [], cs => some cs
  | [w], cs => afterWord? w.toList cs
  | w :: ws, cs => do afterWords? ws (← afterBlanks? (← afterWord? w.toList cs))

def endsWord : List Char → Bool
  | [] => true
  | c :: _ => !isWordCharacter c

/-- One of `words` stands in the text as a whole word; `inside` if a word character comes before. -/
def hasWord (words : List String) (inside : Bool) : List Char → Bool
  | [] => false
  | c :: cs =>
    !inside && words.any (fun w => (afterWord? w.toList (c :: cs)).any endsWord)
      || hasWord words (isWordCharacter c) cs

/-- The property holds of the text or of what is left after some of it. -/
def anySuffix (p : List Char → Bool) : List Char → Bool
  | [] => p []
  | c :: cs => p (c :: cs) || anySuffix p cs

end SqlLineage.Text
