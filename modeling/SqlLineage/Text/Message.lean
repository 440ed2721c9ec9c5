import SqlLineage.Text.Hidden

/-! Texts as messages quote them. -/

namespace SqlLineage.Text

/-- A character of a quoted text in a message. -/
def debugChar (c : Char) : List Char :=
  if c = '"' then ['\\', '"']
  else if c = '\\' then ['\\', '\\']
  else if c = '\n' then ['\\', 'n']
  else if c = '\r' then ['\\', 'r']
  else if c = '\t' then ['\\', 't']
  else if c.toNat = 0 then ['\\', '0']
  else if isHidden c then ['\\', 'u', '\x7b'] ++ Nat.toDigits 16 c.toNat ++ ['\x7d']
  else [c]

def debugText (s : String) : String :=
  String.ofList ('"' :: s.toList.flatMap debugChar ++ ['"'])

def ticked (s : String) : String := "\x60" ++ s ++ "\x60"

end SqlLineage.Text
