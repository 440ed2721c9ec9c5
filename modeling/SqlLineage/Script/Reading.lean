import SqlLineage.Script.Dump
import SqlLineage.Script.Segment
import SqlLineage.Script.Validation
import SqlLineage.Sql.Parser.Statement

/-! Reading a script. The whole text is parsed at once; when that fails it is cut into statements
and each is parsed on its own, so that one bad statement does not hide the others. -/

namespace SqlLineage

/-- A statement that does not parse: its place among the pieces of the script, and why. -/
structure Skipped where
  index : Nat
  sql : String
  error : String
  deriving DecidableEq, Repr

namespace Script

structure Parsed (σ : Type) where
  statements : List σ
  skipped : List Skipped

/-- How a script was read. -/
inductive Reading (σ : Type)
  | whole (statements : List σ)
  /-- The script does not parse as a whole, for the reason `error`. -/
  | piecewise (error : String) (parsed : Parsed σ)

section

variable {σ : Type}

/-- The statements of one piece in front of those that follow. -/
def addPiece (index : Nat) (piece : String) (outcome : Except String (List σ))
    (rest : Parsed σ) : Parsed σ :=
  match outcome with
  | .ok statements => { rest with statements := statements ++ rest.statements }
  | .error error => { rest with skipped := ⟨index, piece, error⟩ :: rest.skipped }

/-- The pieces of a script, each parsed on its own; `index` is the place of the first. -/
def parsePieces (parse : String → Except String (List σ)) (index : Nat) :
    List String → Parsed σ
  | [] => ⟨[], []⟩
  | piece :: pieces => addPiece index piece (parse piece) (parsePieces parse (index + 1) pieces)

def read (parse : String → Except String (List σ)) (escapes : Bool) (sql : String) :
    Reading σ :=
  match parse sql with
  | .ok statements => .whole statements
  | .error error => .piecewise error (parsePieces parse 0 (split escapes sql))

/-- A reading counts if it found a statement. -/
def Reading.result (dialect : Dialect) : Reading σ → Except Error (Parsed σ)
  | .whole [] => .error .noStatement
  | .whole statements => .ok ⟨statements, []⟩
  | .piecewise error ⟨[], _⟩ => .error (.unparsable dialect error)
  | .piecewise _ parsed => .ok parsed

/-- The reading of a script that passes the first look. -/
def readWith (parse : String → Except String (List σ)) (dialect : Dialect) (sql : String) :
    Except Error (Reading σ) := do
  validate sql
  return read parse dialect.backslashEscapes (preprocess dialect sql)

def parseWith (parse : String → Except String (List σ)) (dialect : Dialect) (sql : String) :
    Except Error (Parsed σ) := do
  (← readWith parse dialect sql).result dialect

end

/-- The statements of a text, or the wording of why it does not parse. -/
def parseText (dialect : Dialect) (sql : String) : Except String (List Sql.Statement) :=
  (Sql.parse dialect sql).mapError Sql.SyntaxError.render

def parse (dialect : Dialect) (sql : String) : Except Error (Parsed Sql.Statement) :=
  parseWith (parseText dialect) dialect sql

end Script
end SqlLineage
