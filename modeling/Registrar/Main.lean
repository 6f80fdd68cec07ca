import Registrar.CommandLine.Execution
import Registrar.FileTree.Build

/-!
The program. What the arguments ask for is carried out on a file tree that holds the files
concerned, and the files that have changed in the tree are then written. The files that a scan may
read are named on standard input, one path on each line.
-/

set_option autoImplicit false

namespace Registrar.Program

open CommandLine

/-- The rest of the lines of a stream. -/
partial def remainingLines (stream : IO.FS.Stream) : IO (List String) := do
  let line ← stream.getLine
  if line.isEmpty then return []
  let path := String.ofList (Text.lineOfPiece line.toList)
  return path :: (← remainingLines stream)

def loadFile (tree : FileTree) (path : Path) : IO FileTree := do
  try
    return tree.withFile path (← IO.FS.readBinFile path.text)
  catch _ => return tree

def sourcePaths : Command → IO (List Path)
  | .run .. | .list .. => do return (← remainingLines (← IO.getStdin)).map Path.mk
  | _ => return []

def artifactPath : Command → Option Path
  | .setup _ _ artifact => artifact
  | .run _ _ artifact _ => artifact
  | _ => none

def loadTree (invocation : Invocation) : IO FileTree := do
  let here : Path := ⟨toString (← IO.currentDir)⟩
  let tree : FileTree := { FileTree.empty.withDirectories here with here := here.steps }
  let tree ← loadFile tree (invocation.config.getD manifestName)
  let outputs := match invocation.manifestFile tree with
    | .ok file => [file.manifest.output.artifact, file.manifest.output.entryPoint]
    | .error _ => []
  let sources ← sourcePaths invocation.command
  (outputs ++ (artifactPath invocation.command).toList ++ sources).foldlM loadFile tree

/-- Makes the file system hold what has changed in the tree. -/
def storeChanges (before after : FileTree) : IO Unit := do
  for (location, change) in before.changes after do
    let path := "/" ++ "/".intercalate (location.map FileName.shown)
    match change with
    | some .directory => IO.FS.createDirAll path
    | some (.file bytes _) =>
        let staged := path ++ "~"
        IO.FS.writeBinFile staged bytes
        IO.FS.rename staged path
    | some (.link _) | none => pure ()

def runArguments (arguments : List String) : IO UInt32 := do
  match Invocation.ofArguments arguments with
  | .error refusal =>
      if refusal.exitCode = 0 then IO.println refusal.message else IO.eprintln refusal.message
      return refusal.exitCode.toUInt32
  | .ok invocation =>
      let before ← loadTree invocation
      let (ending, after) := (invocation.execute Host.standard).run before
      storeChanges before after
      IO.eprint ending.written.err
      IO.print ending.written.out
      return ending.exitCode.toUInt32

end Registrar.Program

def main (arguments : List String) : IO UInt32 :=
  Registrar.Program.runArguments arguments
