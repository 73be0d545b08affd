/-
  The program.

  The files that the command line names are read first and put into a tree at the places they have
  on the disk.  The run itself happens on that tree, and the files that it adds are then written.
  Other programs are not started from here, so trying a crate out reports that it cannot be done.
-/
import ClientForge.CommandLine.Run

namespace ClientForge.Main

open ClientForge.CommandLine

/-- The tree with the file at a path on the disk, if it can be read. -/
def withFile (here : List String) (tree : FileTree) (path : String) : IO FileTree := do
  try
    let content ← IO.FS.readBinFile path
    pure (FileTree.writeFile here path content.toList tree).1
  catch _ => pure tree

/-- The paths that a request reads. -/
def readPaths : Option Request → List String
  | some (.run options) => options.config.toList ++ [options.document]
  | _ => []

/-- The place of the directory that the program runs in. -/
def currentPlace : IO (List String) := do
  let path := (← IO.currentDir).toString
  pure ((Path.parts path).foldl FileTree.placeOf [])

/-- Writes a file of the tree to the disk. -/
def writeOut (place : List String) (content : List UInt8) : IO Unit := do
  IO.FS.createDirAll ("/" ++ String.intercalate "/" place.dropLast)
  IO.FS.writeBinFile ("/" ++ String.intercalate "/" place) ⟨content.toArray⟩

/-- The line that shows a notice. -/
def noticeLine (notice : Log.Notice) : String :=
  notice.level.name ++ " " ++ notice.part.target

/-- What is printed when the arguments cannot be understood. -/
def usageText : String :=
  "error: the arguments cannot be understood\n\nUsage: openapi-sdkgen [OPTIONS] <SPEC>"

/-- Runs the program on the disk. -/
def runOnDisk (args : List String) : IO UInt32 := do
  let here ← currentPlace
  let request := request? args
  let start := (FileTree.makeWay (here.map .name) [] .empty).1
  let tree ← (readPaths request).foldlM (withFile here) start
  let setting ← IO.getEnv logVariable
  let around : Surroundings := { tree, here, logSetting := setting }
  let outcome := run args around
  let old := tree.files
  try
    for (place, content) in outcome.tree.files do
      if old.lookup place != some content then writeOut place content
    IO.print outcome.stdout
    for notice in shownNotices args around outcome.notices do
      IO.eprintln (noticeLine notice)
    if request.isNone then IO.eprintln usageText
    pure (UInt32.ofNat outcome.exit)
  catch failure =>
    IO.eprintln failure.toString
    pure 1

end ClientForge.Main

/-- Runs the program with the arguments of the command line. -/
def main (args : List String) : IO UInt32 := ClientForge.Main.runOnDisk args
