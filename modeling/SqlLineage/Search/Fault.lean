import SqlLineage.Text.Blank

/-! What is wrong with a written pattern, and how a message shows it. -/

namespace SqlLineage.Search

/-- A place in the written pattern, counted from one. -/
structure Mark where
  line : Nat := 1
  column : Nat := 1
  deriving DecidableEq, Repr

def Mark.after (m : Mark) (c : Char) : Mark :=
  if c == '\n' then ⟨m.line + 1, 1⟩ else ⟨m.line, m.column + 1⟩

structure Span where
  start : Mark
  stop : Mark
  deriving DecidableEq, Repr

inductive Cause
  | classEscape
  | classRange
  | classRangeLiteral
  | classUnclosed
  | decimalInvalid
  | hexEmpty
  | hexInvalid
  | hexDigit
  | escapeEnd
  | escapeUnknown
  | flagDangling
  | flagDuplicate
  | flagNegatedTwice
  | flagEnd
  | flagUnknown
  | nameDuplicate
  | nameEmpty
  | nameInvalid
  | nameEnd
  | groupUnclosed
  | groupUnopened
  | countRange
  | countEmpty
  | countUnclosed
  | nothingToRepeat
  | edgeUnclosed
  | edgeUnknown
  | edgeEnd
  | propertyInvalid
  | backreference
  | lookAround
  | unicodeNotAllowed
  | invalidUtf8
  | propertyUnknown
  | valueUnknown
  deriving DecidableEq, Repr

def Cause.text : Cause → String
  | classEscape => "invalid escape sequence found in character class"
  | classRange => "invalid character class range, the start must be <= the end"
  | classRangeLiteral => "invalid range boundary, must be a literal"
  | classUnclosed => "unclosed character class"
  | decimalInvalid => "decimal literal invalid"
  | hexEmpty => "hexadecimal literal empty"
  | hexInvalid => "hexadecimal literal is not a Unicode scalar value"
  | hexDigit => "invalid hexadecimal digit"
  | escapeEnd => "incomplete escape sequence, reached end of pattern prematurely"
  | escapeUnknown => "unrecognized escape sequence"
  | flagDangling => "dangling flag negation operator"
  | flagDuplicate => "duplicate flag"
  | flagNegatedTwice => "flag negation operator repeated"
  | flagEnd => "expected flag but got end of regex"
  | flagUnknown => "unrecognized flag"
  | nameDuplicate => "duplicate capture group name"
  | nameEmpty => "empty capture group name"
  | nameInvalid => "invalid capture group character"
  | nameEnd => "unclosed capture group name"
  | groupUnclosed => "unclosed group"
  | groupUnopened => "unopened group"
  | countRange => "invalid repetition count range, the start must be <= the end"
  | countEmpty => "repetition quantifier expects a valid decimal"
  | countUnclosed => "unclosed counted repetition"
  | nothingToRepeat => "repetition operator missing expression"
  | edgeUnclosed =>
    "special word boundary assertion is either unclosed or contains an invalid character"
  | edgeUnknown =>
    "unrecognized special word boundary assertion, valid choices are: start, end, start-half " ++
      "or end-half"
  | edgeEnd =>
    "found either the beginning of a special word boundary or a bounded repetition on a \\b " ++
      "with an opening brace, but no closing brace"
  | propertyInvalid => "invalid Unicode character class"
  | backreference => "backreferences are not supported"
  | lookAround => "look-around, including look-ahead and look-behind, is not supported"
  | unicodeNotAllowed => "Unicode not allowed here"
  | invalidUtf8 => "pattern can match invalid UTF-8"
  | propertyUnknown => "Unicode property not found"
  | valueUnknown => "Unicode property value not found"

/-- Why a written pattern is none, and where; `earlier` is what it collides with. -/
inductive Fault
  | located (cause : Cause) (span : Span) (earlier : Option Span)
  /-- Counts make the pattern too large. -/
  | tooLarge
  deriving DecidableEq, Repr

namespace Fault

/-- Carets under the spans of one line, which are in order. -/
def carets (column : Nat) : List Span → List Char
  | [] => []
  | s :: rest =>
    let gap := s.start.column - column
    let width := max 1 (s.stop.column - s.start.column)
    List.replicate gap ' ' ++ List.replicate width '^' ++ carets (column + gap + width) rest

def leftPad (width : Nat) (text : String) : String :=
  String.ofList (List.replicate (width - text.length) ' ') ++ text

/-- The lines of the pattern, numbered if there are several, with carets under the spans. -/
def notated (lines : List String) (numbered : Nat) (spans : List Span) : String :=
  let margin := if numbered == 0 then 4 else numbered + 2
  String.join (lines.zipIdx.map fun (line, i) =>
    let here := spans.filter (·.start.line == i + 1)
    let label := if numbered == 0 then "    " else leftPad numbered (toString (i + 1)) ++ ": "
    let notes :=
      if here.isEmpty then ""
      else String.ofList (List.replicate margin ' ' ++ carets 1 here) ++ "\n"
    label ++ line ++ "\n" ++ notes)

def rangeText (s : Span) : String :=
  "on line " ++ toString s.start.line ++ " (column " ++ toString s.start.column ++
    ") through line " ++ toString s.stop.line ++ " (column " ++ toString (s.stop.column - 1) ++ ")"

def message (pattern : String) : Fault → String
  | tooLarge => "Compiled regex exceeds size limit of 10485760 bytes."
  | located cause span earlier =>
    let spans := earlier.toList ++ [span]
    let oneLine := spans.filter fun s => s.start.line == s.stop.line
    let others := spans.filter fun s => s.start.line != s.stop.line
    let lines := Text.lines pattern
    let count := lines.length + (if pattern.endsWith "\n" then 1 else 0)
    let numbered := if count ≤ 1 then 0 else (toString count).length
    let body := notated lines numbered oneLine
    let rule := String.ofList (List.replicate 79 '~') ++ "\n"
    let ranges := if others.isEmpty then "" else "\n".intercalate (others.map rangeText) ++ "\n"
    "regex parse error:\n" ++
      (if pattern.toList.contains '\n' then rule ++ body ++ rule ++ ranges else body) ++
      "error: " ++ cause.text

end Fault
end SqlLineage.Search
