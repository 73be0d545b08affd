/-
  Files and directories as a tree.

  A place in the tree is given by the names on the way to it.  A path is a text that leads from
  one place to another; every place it passes must be a directory.  Reading asks for a file of
  UTF-8 text.  Writing makes the directories on the way first, and what was made stays even when
  the file itself cannot be written.
-/
import ClientForge.Failure
import ClientForge.Files.FileSet
import ClientForge.Text.Utf8

namespace ClientForge

/-- A file with its octets, or a directory with what is in it. -/
inductive FileTree where
  | file (content : List UInt8)
  | directory (entries : List (String × FileTree))
deriving Inhabited

namespace FileTree

/-- A directory with nothing in it. -/
def empty : FileTree := directory []

/-! ## Places -/

/-- What has a name among entries. -/
def lookup (name : String) : List (String × FileTree) → Option FileTree
  | [] => none
  | (other, tree) :: rest => if other = name then some tree else lookup name rest

/-- The entries with `new` under a name. -/
def replace (name : String) (new : FileTree) : List (String × FileTree) → List (String × FileTree)
  | [] => [(name, new)]
  | (other, tree) :: rest =>
    if other = name then (name, new) :: rest else (other, tree) :: replace name new rest

/-- What is at a place. -/
def get? : FileTree → List String → Option FileTree
  | tree, [] => some tree
  | file _, _ :: _ => none
  | directory entries, name :: place => (lookup name entries).bind fun child => child.get? place

/-- The tree with `new` at a place; the directory it is in must be there. -/
def put (new : FileTree) : List String → FileTree → Option FileTree
  | [], _ => some new
  | _ :: _, file _ => none
  | [name], directory entries => some (directory (replace name new entries))
  | name :: next :: place, directory entries =>
    (lookup name entries).bind fun child =>
      (put new (next :: place) child).map fun child => directory (replace name child entries)

/-- Whether there is a directory at a place. -/
def isDirectory (tree : FileTree) (place : List String) : Bool :=
  match tree.get? place with
  | some (directory _) => true
  | _ => false

theorem lookup_replace (name other : String) (new : FileTree) (entries : List (String × FileTree)) :
    lookup other (replace name new entries) =
      if other = name then some new else lookup other entries := by
  induction entries with
  | nil => simp only [replace, lookup, eq_comm]
  | cons entry rest ih =>
    simp only [replace]
    split
    · rename_i heq
      by_cases h : other = name
      · subst h; simp [lookup]
      · simp [lookup, h, Ne.symm h, heq]
    · rename_i hne
      by_cases h : entry.1 = other
      · subst h; simp [lookup, hne]
      · simp only [lookup, h, if_false]; exact ih

/-! ## Following paths -/

/-- The place that a part of a path leads to. -/
def placeOf (here : List String) : PathPart → List String
  | .root => []
  | .here => here
  | .parent => here.dropLast
  | .name name => here ++ [name]

/-- The place that a path leads to; it may be one where nothing is. -/
def follow (tree : FileTree) : List PathPart → List String → Option (List String)
  | [], here => some here
  | part :: rest, here =>
    if tree.isDirectory here then tree.follow rest (placeOf here part) else none

/-- The place of the file that a path names. -/
def placeOfFile? (tree : FileTree) (here : List String) (path : String) : Option (List String) :=
  if Path.namesFile path then tree.follow (Path.parts path) here else none

/-! ## Reading -/

/-- The octets of the file that a path names. -/
def bytes? (tree : FileTree) (here : List String) (path : String) : Option (List UInt8) :=
  match (tree.placeOfFile? here path).bind tree.get? with
  | some (file content) => some content
  | _ => none

/-- The text of the file that a path names. -/
def read (tree : FileTree) (here : List String) (path : String) : Except Failure String :=
  match (tree.bytes? here path).bind Text.ofUtf8? with
  | some cs => .ok (String.ofList cs)
  | none => .error .read

/-! ## Writing -/

/-- The tree with a directory at a place, where there may be one already. -/
def makeDirectory (tree : FileTree) (place : List String) : Option FileTree :=
  match tree.get? place with
  | some (directory _) => some tree
  | some (file _) => none
  | none => put empty place tree

/-- Makes the directories that a path passes and the one it leads to.  Gives the tree with those
that could be made, and the place the path leads to if all could. -/
def makeWay : List PathPart → List String → FileTree → FileTree × Option (List String)
  | [], here, tree => (tree, some here)
  | part :: rest, here, tree =>
    match tree.makeDirectory (placeOf here part) with
    | some made => makeWay rest (placeOf here part) made
    | none => (tree, none)

/-- The tree with a file at a place where there is no directory. -/
def putFile (tree : FileTree) (place : List String) (content : List UInt8) : Option FileTree :=
  if tree.isDirectory place then none else put (file content) place tree

/-- Writes a file after making the directories on the way to it: the tree then, and whether the
file is in it. -/
def writeFile (here : List String) (path : String) (content : List UInt8) (tree : FileTree) :
    FileTree × Bool :=
  let parts := Path.parts path
  match makeWay parts.dropLast here tree with
  | (tree, none) => (tree, false)
  | (tree, some parent) => match parts.getLast? with
    | none => (tree, false)
    | some last =>
      if Path.namesFile path then
        match tree.putFile (placeOf parent last) content with
        | some written => (written, true)
        | none => (tree, false)
      else (tree, false)

/-- Writes files one after the other below a directory, up to the first that cannot be written:
the tree then, and how many files were written. -/
def writeFiles (here : List String) (base : String) :
    List (String × String) → FileTree → FileTree × Nat
  | [], tree => (tree, 0)
  | (path, text) :: rest, tree =>
    match writeFile here (Path.joined base path) (Text.utf8 text.toList) tree with
    | (tree, false) => (tree, 0)
    | (tree, true) =>
      let (tree, count) := writeFiles here base rest tree
      (tree, count + 1)

/-- What comes of writing a set of files. -/
structure Writing where
  /-- The tree afterwards. -/
  tree : FileTree
  /-- How many files were written. -/
  count : Nat
  result : Except Failure Unit

/-- Writes a set of files below a directory. -/
def write (tree : FileTree) (here : List String) (base : String) (files : FileSet) : Writing :=
  let (tree, count) := writeFiles here base files.entries tree
  ⟨tree, count, if count < files.entries.length then .error .write else .ok ()⟩

/-! ## Listing -/

mutual

/-- The files of the tree, each with the names on the way to it. -/
def files : FileTree → List (List String × List UInt8)
  | file content => [([], content)]
  | directory entries => filesOf entries

/-- The files of the entries of a directory. -/
def filesOf : List (String × FileTree) → List (List String × List UInt8)
  | [] => []
  | (name, tree) :: rest =>
    (files tree).map (fun (place, content) => (name :: place, content)) ++ filesOf rest

end

end FileTree

end ClientForge
