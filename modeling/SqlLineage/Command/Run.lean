import SqlLineage.Command.Arguments
import SqlLineage.Command.Scripts
import SqlLineage.Graph.Dot
import SqlLineage.Graph.Json
import SqlLineage.Graph.Report

/-! A run of the program, as a function from arguments, environment and files to what is printed
and written. -/

namespace SqlLineage.Command

open Text (Style styled)

structure Environment where
  /-- The log filter that is asked for. -/
  log : Option String := none
  forceColor : Option String := none
  noColor : Option String := none
  /-- What messages call the directory of the run. -/
  here : String := "."

/-- Color is shown only by force: the output goes to no terminal. -/
def Environment.color (env : Environment) : Bool :=
  match env.forceColor with
  | some v => v != "0"
  | none => false

/-- For the log any wish counts that is not empty, and a wish for no color is stronger. -/
def Environment.logColor (env : Environment) : Bool :=
  !(env.forceColor.getD "").isEmpty && (env.noColor.getD "").isEmpty

def Environment.filter (env : Environment) (verbose : Bool) : Log.Filter :=
  Log.Filter.parse (env.log.getD (if verbose then "debug" else "warn"))

/-- Output is text but for the time that the run took. -/
inductive Chunk
  | text (content : String)
  | elapsed

def Chunk.render (elapsed : String) : Chunk → String
  | text content => content
  | .elapsed => elapsed

structure Console where
  out : List Chunk := []
  err : String := ""
  tree : FileTree

/-- A part of a run; one that fails says why. -/
abbrev Run := ExceptT String (StateM Console)

structure Setting where
  color : Bool
  logColor : Bool
  filter : Log.Filter

section

variable (s : Setting)

def print (text : String) : Run Unit := modify fun c => { c with out := c.out ++ [.text text] }

def printLine (text : String) : Run Unit := print (text ++ "\n")

def complain (text : String) : Run Unit := modify fun c => { c with err := c.err ++ text }

def log (records : List Log.Record) : Run Unit := complain (s.filter.lines s.logColor records)

def banner : String :=
  "\n     _       _         __ _\n  __| | __ _| |_ __ _ / _| | _____      __\n" ++
    " / _\x60 |/ _\x60 | __/ _\x60 | |_| |/ _ \\ \\ /\\ / /\n" ++
    "| (_| | (_| | || (_| |  _| | (_) \\ V  V /\n" ++
    " \\__,_|\\__,_|\\__\\__,_|_| |_|\\___/ \\_/\\_/\n    "

def printBanner : Run Unit := printLine (styled s.color .brightCyan banner)

def dialectsCommand : Run Unit := do
  printLine (styled s.color .green "Supported dialects:")
  for d in Dialect.all do
    printLine ("  " ++ d.name)

def versionNumber : String := "0.1.0"

def versionCommand : Run Unit := do
  printBanner s
  printLine ("dataflow version " ++ versionNumber)
  printLine "Table and view lineage for SQL scripts"
  printLine "Repository: https://github.com/datastx/dataflow"

def readConfig (env : Environment) (asked : Option String) : Run Config := do
  let tree := (← get).tree
  if asked.isNone && !tree.present Config.defaultFile then
    log s [⟨.debug, Trace.config, "No " ++ Config.defaultFile ++ " found, using default settings"⟩]
  match Config.read tree env.here asked with
  | .ok c => return c
  | .error e => throw e.message

/-- The lineage of the files, with what the log and the error output say on the way. -/
def readScripts (dialect : Dialect) (config : Config) (path : String) :
    Run (List (String × Graph)) := do
  let tree := (← get).tree
  match inputFiles tree config path with
  | .error e => throw e.message
  | .ok files =>
    let alone := tree.isFile path
    let mut results := []
    for file in files do
      log s (fileTrace tree dialect config file)
      match fileLineage tree dialect config file with
      | .ok g => results := results ++ [(file, g)]
      | .error failure =>
        if alone then throw (PathError.failed file failure).message
        complain (styled s.color .red "Error parsing" ++ " " ++ file ++ ": " ++ failure.message ++
          "\n")
    return results

def render (format : Format) (path : String) (g : Graph) : Run Unit :=
  match format with
  | .text => do
    printLine ("\n" ++ styled s.color .bold "File:" ++ " " ++ path)
    print (g.report s.color)
  | .json => printLine g.json.pretty
  | .dot => printLine g.toDot

def writeGraph (format : Format) (target : String) (g : Graph) : Run Unit := do
  let (tree, outcome) := (← get).tree.writeAll target g.exportFiles
  modify fun c => { c with tree := tree }
  match outcome with
  | .error e =>
    throw ("Failed to write JSON files to " ++ target ++ ": " ++ (FileFailure.unreadable e).chain)
  | .ok () =>
    log s [⟨.debug, Trace.graph, "Wrote lineage JSON files to " ++ target⟩]
    if format == .text then printLine ("JSON files written to " ++ target)

/-- One file of a run: its graph, or the part of it that is asked for. -/
def showFile (options : ParseOptions) (format : Format) (index total : Nat) (path : String)
    (g : Graph) : Run Unit := do
  let focused :=
    if options.focus.isEmpty then some g else g.focus options.focus
  log s (Trace.ofFocus g options.focus)
  match focused with
  | none =>
    complain (styled s.color .yellow ("None of the focus nodes were found in " ++ path) ++ "\n")
  | some g =>
    render s format path g
    match options.outputDir with
    | none => return ()
    | some dir => writeGraph s format (exportDir dir path index total) g

def parseCommand (env : Environment) (options : ParseOptions) : Run Unit := do
  let config ← readConfig s env options.config
  let label := config.dialectLabel options.dialect
  log s (Trace.ofLabel label)
  let dialect := Dialect.ofLabelOrGeneric label
  let format := options.format.getD config.format
  if format == .text then
    printBanner s
    printLine (styled s.color .green
      ("Parsing SQL in: " ++ options.path ++ " (" ++ dialect.name ++ ")"))
  let results ← readScripts s dialect config options.path
  if format == .text then
    print ("Parsed " ++ toString results.length ++ " file(s) in ")
    modify fun c => { c with out := c.out ++ [.elapsed] }
    print "\n"
  for ((path, g), index) in results.zipIdx do
    showFile s options format index results.length path g

def invoke (env : Environment) : Invocation → Run Unit
  | .parse options => parseCommand s env options
  | .dialects => dialectsCommand s
  | .version => versionCommand s
  | .versionFlag => printLine ("dataflow " ++ versionNumber)
  | .help => printLine about

end

structure Outcome where
  exit : Nat
  out : List Chunk
  err : String
  tree : FileTree

/-- What comes of the arguments in an environment, over a directory. -/
def run (env : Environment) (arguments : List String) (tree : FileTree) : Outcome :=
  match readArguments arguments with
  | .error e => ⟨2, [], e.message env.logColor ++ "\n", tree⟩
  | .ok (invocation, verbose) =>
    let filter := env.filter verbose
    let setting : Setting := ⟨env.color, env.logColor, filter⟩
    let logged := match invocation with
      | .versionFlag | .help => ""
      | _ => String.join filter.warnings
    let start : Console := { err := logged, tree := tree }
    match (invoke setting env invocation).run.run start with
    | (.ok (), c) => ⟨0, c.out, c.err, c.tree⟩
    | (.error message, c) => ⟨1, c.out, c.err ++ "Error: " ++ message ++ "\n", c.tree⟩

end SqlLineage.Command
