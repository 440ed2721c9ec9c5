import SqlLineage.Text.Split

/-! Text for a terminal: padding to a width, and styles that a terminal shows. -/

namespace SqlLineage.Text

inductive Style
  | bold
  | dimmed
  | red
  | green
  | yellow
  | blue
  | brightGreen
  | brightCyan
  deriving DecidableEq, Repr

def Style.code : Style → String
  | bold => "1"
  | dimmed => "2"
  | red => "31"
  | green => "32"
  | yellow => "33"
  | blue => "34"
  | brightGreen => "92"
  | brightCyan => "96"

def Style.start (s : Style) : String := "\x1b[" ++ s.code ++ "m"

def styleEnd : String := "\x1b[0m"

/-- Every end of a style inside the text starts `style` again. -/
def resumeAfterEnd (style : List Char) : List Char → List Char
  | '\x1b' :: '[' :: '0' :: 'm' :: rest =>
    styleEnd.toList ++ style ++ resumeAfterEnd style rest
  | c :: rest => c :: resumeAfterEnd style rest
  | [] => []

/-- The text filled up with blanks to `width` characters. -/
def padRight (width : Nat) (text : String) : String :=
  text ++ String.ofList (List.replicate (width - text.length) ' ')

/-- The text in a style, if styles are shown at all; blanks that fill it up belong to it. -/
def styledTo (color : Bool) (style : Style) (width : Nat) (text : String) : String :=
  if color then
    let inside := String.ofList (resumeAfterEnd style.start.toList text.toList)
    style.start ++ padRight width inside ++ styleEnd
  else padRight width text

def styled (color : Bool) (style : Style) (text : String) : String := styledTo color style 0 text

end SqlLineage.Text
