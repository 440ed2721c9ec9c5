import SqlLineage.Graph.Cycle
import SqlLineage.Text.Blank
import SqlLineage.Text.Style

/-! A graph as a report to read. -/

namespace SqlLineage

open Text (Style styled styledTo padRight)

def Kind.style : Kind → Style
  | .table => .blue
  | .view => .green
  | .materializedView => .brightGreen
  | .cteView => .dimmed
  | .unknown => .yellow

namespace Report

variable (color : Bool)

def heading (style : Style) (title : String) : String :=
  "\n--- " ++ styled color style title ++ " ---\n"

def nodeLine (entry : String × Node) : String :=
  let (name, n) := entry
  "  " ++ styledTo color .bold 32 name ++ " " ++ styledTo color n.kind.style 18 n.kind.name ++
    " " ++ n.schema.getD "-" ++
    styled color .dimmed (if n.inferred then " (guessed)" else "") ++ "\n"

def dependencyLine (g : Graph) (name : String) : String :=
  match g.dependenciesOf name with
  | [] => ""
  | sources => "  " ++ styled color .bold name ++ " <- " ++ ", ".intercalate sources ++ "\n"

def statsLine (entry : String × Nat) : String :=
  "  " ++ padRight 24 entry.1 ++ " " ++ toString entry.2 ++ "\n"

def cycleLines (number : Nat) : List (List String) → String
  | [] => ""
  | names :: rest =>
    "Cycle " ++ toString number ++ ": " ++ " → ".intercalate names ++ "\n" ++
      cycleLines (number + 1) rest

def skippedLine (s : Skipped) : String :=
  "  #" ++ toString (s.index + 1) ++ " " ++ (Text.lines s.sql).headD "" ++ ": " ++
    styled color .red s.error ++ "\n"

/-- A section that is left out when there is nothing to say. -/
def part {α : Type} (style : Style) (title : String) (items : List α)
    (body : List α → String) : String :=
  if items.isEmpty then "" else heading color style title ++ body items

end Report

open Report in
def Graph.report (color : Bool) (g : Graph) : String :=
  heading color .green "Nodes" ++ String.join (g.nodes.map (nodeLine color)) ++
    heading color .green "Dependencies" ++ (if g.edges.isEmpty then "  (none)\n" else "") ++
    String.join (g.nodes.names.map (dependencyLine color g)) ++
    part color .green "Objects per schema" g.stats (fun s => String.join (s.map statsLine)) ++
    part color .red "Circular Dependencies Detected" g.cycles (cycleLines 1) ++
    part color .yellow "Skipped statements" g.skipped
      (fun s => String.join (s.map (skippedLine color)))

end SqlLineage
