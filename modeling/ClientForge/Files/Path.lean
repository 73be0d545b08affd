/-
  Paths, compared part by part.

  Repeated slashes, points between them and a slash at the end make no difference; a point at the
  start does, unless the path begins at the root.
-/
import ClientForge.Text.Split

namespace ClientForge

/-- A part of a path. -/
inductive PathPart where
  | root
  /-- The point at the start of a path. -/
  | here
  | parent
  | name (text : String)
deriving DecidableEq, Repr, Inhabited

namespace PathPart

/-- The place of the kinds of part in the order. -/
def rank : PathPart → Nat
  | root => 0
  | here => 1
  | parent => 2
  | name _ => 3

/-- Whether a part comes before another: by kind, and names by their text. -/
def before : PathPart → PathPart → Bool
  | name a, name b => a < b
  | a, b => a.rank < b.rank

end PathPart

namespace Path

/-- The part that a text between slashes is, `first` telling whether it begins a relative path. -/
def part? (first : Bool) (text : List Char) : Option PathPart :=
  if text.isEmpty then none
  else if text == ['.'] then if first then some .here else none
  else if text == ['.', '.'] then some .parent
  else some (.name (String.ofList text))

/-- The parts of a path. -/
def parts (path : String) : List PathPart :=
  match Text.split '/' path.toList with
  | [] => []
  | first :: rest =>
    let isRooted := first.isEmpty && !rest.isEmpty
    let start := if isRooted then [PathPart.root] else (part? true first).toList
    start ++ rest.filterMap (part? false)

/-- Whether a row of parts comes before another. -/
def partsBefore : List PathPart → List PathPart → Bool
  | [], [] => false
  | [], _ :: _ => true
  | _ :: _, [] => false
  | a :: as, b :: bs => if a = b then partsBefore as bs else a.before b

/-- Whether a path comes before another. -/
def before (a b : String) : Bool := partsBefore (parts a) (parts b)

/-- Whether two paths are the same. -/
def same (a b : String) : Bool := parts a = parts b

/-- A path below a directory, unless it begins at the root. -/
def joined (directory path : String) : String :=
  if path.toList.head? == some '/' then path
  else if directory.isEmpty then path
  else if directory.toList.getLast? == some '/' then directory ++ path
  else directory ++ "/" ++ path

/-- The ending of a path's last name, after its last point.  A name that begins with its only point
has none. -/
def ending? (path : String) : Option String :=
  match (parts path).getLast? with
  | some (.name text) =>
    match (Text.split '.' text.toList).reverse with
    | last :: before :: more =>
      if before.isEmpty && more.isEmpty then none else some (String.ofList last)
    | _ => none
  | _ => none

/-- Whether a path ends in a name, so that a file can be meant. -/
def namesFile (path : String) : Bool :=
  !(["", ".", ".."].contains (String.ofList (Text.lastPart '/' path.toList)))

example : same "a//b/./c/" "a/b/c" = true := by decide +kernel
example : before "a/b" "a-b" = true := by decide +kernel
example : ending? ".yaml" = none := by decide +kernel

end Path

end ClientForge
