import EditionGuard.CommandLine.Run

/-!
# The command line

Loads the folder of outputs and the file of options, runs, and prints.
-/

open EditionGuard EditionGuard.CommandLine

/-- The file or folder of a name with all that lies below it. What cannot be read is left
out. -/
partial def loadNode (name : String) : IO (Option FileNode) := do
  let path := System.mkFilePath [name]
  try
    if ← path.isDir then
      let entries ← path.readDir
      let loaded ← entries.toList.filterMapM fun entry => do
        let node ← loadNode (name ++ "/" ++ entry.fileName)
        return node.map fun node => (entry.fileName.toList, node)
      return some (.folder loaded)
    else return some (.file (← IO.FS.readBinFile path).toList)
  catch _ => return none

def loadPath (files : FileSystem) (path : List Char) : IO FileSystem := do
  match ← loadNode (String.ofList path) with
  | some node => return files.insert path node
  | none => return files

def main (words : List String) : IO UInt32 := do
  let words := words.map String.toList
  let directory := (toString (← IO.currentDir)).toList
  let start : FileSystem := { workingDirectory := directory }
  let paths := match Arguments.read words with
    | .ok arguments => arguments.folder.toList ++ arguments.config.toList
    | .error _ => []
  let files ← paths.foldlM loadPath (start.insert directory (.folder []))
  let directives ← IO.getEnv "RUST_LOG"
  match run files .inTurn (directives.map String.toList) words with
  | .ok result =>
    (← IO.getStdout).putStr (String.ofList result.stdout)
    (← IO.getStderr).putStr (String.ofList result.stderr)
    return result.exitCode.toUInt32
  | .error .line =>
    (← IO.getStderr).putStr "attempt to add with overflow\n"
    return 101
