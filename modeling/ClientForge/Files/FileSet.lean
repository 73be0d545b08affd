/-
  Files by path, in the order of their paths.

  Of two texts for one path the later counts, under the spelling that came first.
-/
import ClientForge.Files.Path

namespace ClientForge

/-- Texts by path. -/
structure FileSet where
  entries : List (String × String) := []
deriving Repr, Inhabited

namespace FileSet

/-- The entries with one more at its place. -/
def insertList (path text : String) : List (String × String) → List (String × String)
  | [] => [(path, text)]
  | (other, old) :: rest =>
    if Path.before path other then (path, text) :: (other, old) :: rest
    else if Path.same path other then (other, text) :: rest
    else (other, old) :: insertList path text rest

/-- The files with one more. -/
def insert (files : FileSet) (path text : String) : FileSet :=
  ⟨insertList path text files.entries⟩

/-- The files with those of a list added one after the other. -/
def insertAll (files : FileSet) (new : List (String × String)) : FileSet :=
  new.foldl (fun files entry => files.insert entry.1 entry.2) files

/-- The files of a list. -/
def ofList (entries : List (String × String)) : FileSet := insertAll {} entries

/-- The text at a path. -/
def get? (files : FileSet) (path : String) : Option String :=
  (files.entries.find? fun entry => Path.same path entry.1).map Prod.snd

end FileSet

end ClientForge
