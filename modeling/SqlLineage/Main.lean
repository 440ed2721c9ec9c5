import SqlLineage.Command.Elapsed
import SqlLineage.Command.Run

/-! The program: it takes the files that a run may read off the disk, runs, prints, and writes what
has changed. -/

namespace SqlLineage.Main

def readEntry (path : String) : IO Entry := do
  let bytes ← IO.FS.readBinFile path
  return match String.fromUTF8? bytes with
    | some content => .text content
    | none => .binary

/-- Puts what is at a path into the tree, with all below it. -/
partial def loadAll (tree : FileTree) (path : String) : IO FileTree := do
  try
    let real ← IO.FS.realPath path
    if ← real.isDir then
      let mut tree := tree.add (tree.place path) .directory
      for child in ← real.readDir do
        tree ← loadAll tree (Path.join path child.fileName)
      return tree
    else if ← real.pathExists then
      return tree.add (tree.place path) (← readEntry path)
    else return tree
  catch _ => return tree

/-- The files that an invocation may read. -/
def inputs : Command.Invocation → List String
  | .parse options =>
    [options.path, options.config.getD Config.defaultFile] ++ options.outputDir.toList
  | _ => []

def loadInputs (arguments : List String) (tree : FileTree) : IO FileTree :=
  match Command.readArguments arguments with
  | .error _ => return tree
  | .ok (invocation, _) => (inputs invocation).foldlM loadAll tree

def save (place : List String) (content : String) : IO Unit := do
  IO.FS.createDirAll ("/" ++ "/".intercalate place.dropLast)
  IO.FS.writeFile ("/" ++ "/".intercalate place) content

end SqlLineage.Main

open SqlLineage Main in
def main (arguments : List String) : IO UInt32 := do
  let start ← IO.monoNanosNow
  let here := toString (← IO.currentDir)
  let cwd := Path.components here
  let tree ← loadInputs arguments (FileTree.ofPaths cwd [])
  let env : Command.Environment := {
    log := ← IO.getEnv "RUST_LOG"
    forceColor := ← IO.getEnv "CLICOLOR_FORCE"
    noColor := ← IO.getEnv "NO_COLOR"
    here := here }
  let outcome := Command.run env arguments tree
  IO.eprint outcome.err
  let elapsed := Command.elapsedText ((← IO.monoNanosNow) - start)
  for chunk in outcome.out do
    IO.print (chunk.render elapsed)
  for (place, content) in FileTree.changes tree outcome.tree do
    save place content
  return outcome.exit.toUInt32
