/-! Tokens of YAML text, and what is wrong with text that has none. -/

namespace SqlLineage.Yaml

/-- A place in the text, counted from zero. -/
structure Mark where
  index : Nat := 0
  line : Nat := 0
  column : Nat := 0
  deriving DecidableEq, Repr

def Mark.atStart (m : Mark) : Bool := m.line == 0 && m.column == 0

def Mark.text (m : Mark) : String :=
  "line " ++ toString (m.line + 1) ++ " column " ++ toString (m.column + 1)

/-- What was read, what was found wrong, and where both are. -/
structure SyntaxError where
  problem : String
  mark : Mark
  context : Option (String × Mark) := none
  deriving DecidableEq, Repr

/-- A place at the very start is not worth saying, nor is one that was said already. -/
def SyntaxError.message (e : SyntaxError) : String :=
  let problem := if e.mark.atStart then e.problem else e.problem ++ " at " ++ e.mark.text
  match e.context with
  | none => problem
  | some (context, mark) =>
    let here := mark.line == e.mark.line && mark.column == e.mark.column
    problem ++ ", " ++ context ++ (if mark.atStart || here then "" else " at " ++ mark.text)

inductive TokenKind
  | streamStart
  | streamEnd
  | versionDirective (major minor : Nat)
  | tagDirective (handle : String) (tagStart : String)
  | documentStart
  | documentEnd
  | blockSequenceStart
  | blockMappingStart
  | blockEnd
  | flowSequenceStart
  | flowSequenceEnd
  | flowMappingStart
  | flowMappingEnd
  | blockEntry
  | flowEntry
  | key
  | value
  | alias (name : String)
  | anchor (name : String)
  | tag (handle suffix : String)
  | scalar (text : String) (plain : Bool)
  deriving DecidableEq, Repr

structure Token where
  kind : TokenKind
  start : Mark
  stop : Mark
  deriving DecidableEq, Repr

end SqlLineage.Yaml
