import SqlLineage.Command.Trace
import SqlLineage.Config

/-! The lineage of a file, or of all scripts in a directory. -/

namespace SqlLineage.Command

inductive FileFailure
  | unreadable (error : FileError)
  | script (error : Script.Error)
  deriving DecidableEq, Repr

def FileFailure.message : FileFailure → String
  | unreadable e => "I/O error: " ++ e.message
  | script e => e.message

/-- The message with the cause behind it. -/
def FileFailure.chain : FileFailure → String
  | unreadable e => "I/O error: " ++ e.message ++ ": " ++ e.message
  | script e => e.message

/-- A file and what came of it. -/
structure FileLineage where
  path : String
  outcome : Except FileFailure Graph

inductive PathError
  | failed (path : String) (failure : FileFailure)
  | missing (path : String)
  | noScripts (extensions : List String) (path : String)
  deriving DecidableEq, Repr

def PathError.message : PathError → String
  | failed path failure => "Failed to parse " ++ path ++ ": " ++ failure.chain
  | missing path => "Input path does not exist: " ++ path
  | noScripts extensions path =>
    "No files with extensions [" ++ ", ".intercalate extensions ++ "] found in " ++ path

section

variable (tree : FileTree) (dialect : Dialect) (config : Config)

def fileLineage (path : String) : Except FileFailure Graph :=
  match tree.readText path with
  | .error e => .error (.unreadable e)
  | .ok sql => (lineage dialect config.kindOf sql).mapError .script

/-- What the log says about a file. -/
def fileTrace (path : String) : List Log.Record :=
  match tree.readText path with
  | .error _ => []
  | .ok sql =>
    ⟨.info, Trace.lineage, "Starting " ++ dialect.name ++ " parsing for: " ++ path⟩ ::
      Trace.ofScript dialect config.kindOf sql

/-- The scripts in a directory, in order. -/
def scriptFiles (path : String) : List String :=
  ((tree.filesUnder path).filter config.accepts).mergeSort Path.le

/-- The files that a path stands for. -/
def inputFiles (path : String) : Except PathError (List String) :=
  if tree.isFile path then .ok [path]
  else if !tree.isDirectory path then .error (.missing path)
  else match scriptFiles tree config path with
    | [] => .error (.noScripts config.extensions path)
    | files => .ok files

/-- The lineage of each file that a path stands for. A file that is asked for by name has to
give one. -/
def pathLineage (path : String) : Except PathError (List FileLineage) := do
  let results := (← inputFiles tree config path).map fun file =>
    FileLineage.mk file (fileLineage tree dialect config file)
  match tree.isFile path, results with
  | true, [⟨file, .error failure⟩] => throw (.failed file failure)
  | _, results => return results

end

/-- The graphs among the results. -/
def graphs (results : List FileLineage) : List (String × Graph) :=
  results.filterMap fun r => r.outcome.toOption.map fun g => (r.path, g)

/-- Where the graph of one of several files goes: a directory of its own, named for the file. -/
def exportDir (outputDir path : String) (index total : Nat) : String :=
  if total ≤ 1 then outputDir
  else Path.join outputDir ((Path.stem? path).getD ("file_" ++ toString index))

end SqlLineage.Command
