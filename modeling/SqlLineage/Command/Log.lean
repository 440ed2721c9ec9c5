import SqlLineage.Search.Meaning
import SqlLineage.Text.Blank
import SqlLineage.Text.Split
import SqlLineage.Text.Style
import SqlLineage.Text.Terminal

/-! Log records, and the filter that says which of them are shown. -/

namespace SqlLineage.Log

inductive Level
  | error
  | warn
  | info
  | debug
  | trace
  deriving DecidableEq, Repr

namespace Level

def name : Level → String
  | error => "ERROR"
  | warn => "WARN"
  | info => "INFO"
  | debug => "DEBUG"
  | trace => "TRACE"

/-- Records of lower rank matter more. -/
def rank : Level → Nat
  | error => 1
  | warn => 2
  | info => 3
  | debug => 4
  | trace => 5

def code : Level → String
  | error => "\x1b[1m\x1b[31m"
  | warn => "\x1b[33m"
  | info => "\x1b[32m"
  | debug => "\x1b[34m"
  | trace => "\x1b[36m"

end Level

structure Record where
  level : Level
  /-- The part of the program that speaks. -/
  target : String
  message : String
  deriving DecidableEq, Repr

def subtle (color : Bool) (text : String) : String :=
  if color then "\x1b[90m" ++ text ++ Text.styleEnd else text

/-- The line of a record; without color nothing else is left for the terminal either. -/
def Record.line (color : Bool) (r : Record) : String :=
  let level := Text.padRight 5 r.level.name
  let line := subtle color "[" ++
    (if color then r.level.code ++ level ++ Text.styleEnd else level) ++ " " ++
    r.target ++ subtle color "]" ++ " " ++ r.message ++ "\n"
  if color then line else Text.shownText line

/-- Records of a target that starts with `scope` are shown up to a rank. -/
structure Directive where
  scope : Option String
  rank : Nat
  deriving DecidableEq, Repr

def maxRank : Nat := 5

def rank? (word : String) : Option Nat :=
  let word := word.toLower
  if word == "off" then some 0
  else ([Level.error, .warn, .info, .debug, .trace].find? fun l => l.name.toLower == word).map
    Level.rank

/-- One part of a filter, or what is wrong with it. -/
def directive? (part : List Char) : Except String Directive :=
  match (Text.splitAtChar '=' part).map String.ofList with
  | [word] =>
    match rank? word with
    | some rank => .ok ⟨none, rank⟩
    | none => .ok ⟨some word, maxRank⟩
  | [scope, level] =>
    let level := Text.trim level
    if level.isEmpty then .ok ⟨some scope, maxRank⟩
    else match rank? level with
      | some rank => .ok ⟨some scope, rank⟩
      | none => .error level
  | _ => .error (String.ofList part)

structure Filter where
  directives : List Directive
  /-- Only records with this pattern are shown. -/
  pattern : Option Search.Pattern := none
  warnings : List String := []

def warning (spec : String) (more : String) : String :=
  "warning: invalid logging spec '" ++ spec ++ "'" ++ more ++ ", ignoring it\n"

/-- A directive takes the place of an earlier one for the same scope. -/
def addDirective (directives : List Directive) (d : Directive) : List Directive :=
  if directives.any (·.scope == d.scope) then
    directives.map fun other => if other.scope == d.scope then d else other
  else directives ++ [d]

def addPart (filter : Filter) (part : List Char) : Filter :=
  if part.isEmpty then filter
  else match directive? part with
    | .ok d => { filter with directives := addDirective filter.directives d }
    | .error spec => { filter with warnings := filter.warnings ++ [warning spec ""] }

/-- A pattern is added to a filter, or a warning about it. -/
def addPattern (filter : Filter) (text : String) : Filter :=
  match Search.Pattern.parse text with
  | .ok pattern => { filter with pattern := some pattern }
  | .error fault =>
    let warning := "warning: invalid regex filter - " ++ fault.message text ++ ", ignoring it\n"
    { filter with warnings := filter.warnings ++ [warning] }

/-- A filter as it is written: directives with commas between, and maybe a pattern after a slash.
Where nothing is said only errors are shown. -/
def Filter.parse (spec : String) : Filter :=
  let directives (parts : List Char) : Filter :=
    ((Text.splitAtChar ',' parts).map Text.trimChars).foldl addPart ⟨[], none, []⟩
  let base := match Text.splitAtChar '/' spec.toList with
    | [parts] => directives parts
    | [parts, pattern] => addPattern (directives parts) (String.ofList pattern)
    | _ => ⟨[], none, [warning spec " (too many '/'s)"]⟩
  if base.directives.isEmpty then { base with directives := [⟨none, 1⟩] } else base

def Directive.covers (d : Directive) (target : String) : Bool :=
  match d.scope with
  | none => true
  | some scope => scope.toList.isPrefixOf target.toList

def scopeLength (d : Directive) : Nat := (d.scope.map fun s => s.utf8ByteSize).getD 0

/-- The closest directive decides: the longest scope, and the last of those. -/
def Filter.closest? (directives : List Directive) (target : String) : Option Directive :=
  (directives.filter (·.covers target)).foldl (fun best d =>
    match best with
    | none => some d
    | some b => if scopeLength b ≤ scopeLength d then some d else some b) none

def Filter.shows (filter : Filter) (r : Record) : Bool :=
  (closest? filter.directives r.target).any (fun d => r.level.rank ≤ d.rank) &&
    filter.pattern.all fun pattern => pattern.occursIn r.message.toList

/-- The lines of the records that the filter shows. -/
def Filter.lines (filter : Filter) (color : Bool) (records : List Record) : String :=
  String.join ((records.filter filter.shows).map (Record.line color))

end SqlLineage.Log
