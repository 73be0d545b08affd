/-
  Documents in files.

  The ending of a file's name tells the language of the document: `yaml` and `yml` in any case
  mean YAML, and everything else is JSON.
-/
import ClientForge.Document.Reading
import ClientForge.Files.FileTree
import ClientForge.Text.Casing

namespace ClientForge

/-- The language of the document in a file. -/
def Format.ofPath (path : String) : Format :=
  match Path.ending? path with
  | some ending =>
    let lower := String.ofList (Text.lowerAscii ending.toList)
    if lower == "yaml" || lower == "yml" then .yaml else .json
  | none => .json

/-- The document in the file that a path names, seen from a place in the tree. -/
def Document.load (tree : FileTree) (here : List String) (path : String) :
    Except Failure Document :=
  match tree.read here path with
  | .error failure => .error failure
  | .ok text => Document.ofText (.ofPath path) text

example : Format.ofPath "api.YML" = .yaml := by decide +kernel
example : Format.ofPath ".yaml" = .json := by decide +kernel

end ClientForge
