/-
  TOML values, and how lines build a table.

  A text is a row of lines: headers that open a table or one more table of a list, and entries
  that belong to the table opened last.  Every line goes down a path from the top and makes the
  tables that are missing on it.  How a table came about decides what may still be done to it: a
  header declares a table only once, a dotted key extends only tables made by dotted keys or
  implied by headers below them, and nothing is added to a table written between braces.
-/
import ClientForge.Decimal.Binary64

namespace ClientForge

/-- How a table came about. -/
inductive Toml.Origin where
  /-- By a header of its own. -/
  | declared
  /-- By the header of a table below it. -/
  | implied
  /-- By a dotted key. -/
  | dotted
  /-- Between braces. -/
  | closed
deriving DecidableEq, Repr, Inhabited

/-- A TOML value. -/
inductive Toml where
  | text (s : String)
  | integer (n : Int)
  | real (x : Binary64)
  | bool (b : Bool)
  /-- A date, a time of day or both, as it is written. -/
  | moment (written : String)
  | array (items : List Toml)
  | table (origin : Toml.Origin) (entries : List (String × Toml))
  /-- A list of tables, each opened by a header. -/
  | tables (items : List (List (String × Toml)))
deriving Inhabited, Repr

namespace Toml

/-- The entries of a table. -/
abbrev Entries := List (String × Toml)

/-- What an entry gives its key: the tables to go down into, and the key in the last of them. -/
structure Key where
  path : List String
  name : String
deriving DecidableEq, Repr

/-- A line that says something. -/
inductive Line where
  | entry (key : Key) (value : Toml)
  /-- Opens a table. -/
  | header (key : Key)
  /-- Opens one more table of a list. -/
  | listHeader (key : Key)
deriving Repr

/-! ## Entries by key -/

/-- The value of a key. -/
def lookup (name : String) (entries : Entries) : Option Toml :=
  (entries.find? fun e => e.1 == name).map Prod.snd

/-- The entries with what `change` makes of the value of a key, or of its absence. -/
def changeAt (name : String) (change : Option Toml → Option Toml) : Entries → Option Entries
  | [] => (change none).map fun value => [(name, value)]
  | (other, value) :: rest =>
    if other = name then (change (some value)).map fun new => (other, new) :: rest
    else (changeAt name change rest).map fun rest => (other, value) :: rest

/-! ## Going down a path -/

/-- Changes the table at the end of a path.  Tables missing on the way are made with the origin
`made`; a path from a dotted key does not lead through declared tables, and no path leads through
a closed one. -/
def descend (made : Origin) (change : Origin → Entries → Option Entries) :
    List String → Origin → Entries → Option Entries
  | [], origin, entries => change origin entries
  | name :: path, _, entries =>
    changeAt name (fun
      | none => (descend made change path made []).map (.table made)
      | some (.table origin inner) =>
        if origin == .closed || (made == .dotted && origin == .declared) then none
        else (descend made change path origin inner).map (.table origin)
      | some (.tables items) =>
        (descend made change path .declared (items.getLast?.getD [])).map fun last =>
          .tables (items.dropLast ++ [last])
      | some _ => none) entries

/-- The entries with one more under a new name. -/
def addNew (name : String) (value : Toml) : Entries → Option Entries :=
  changeAt name fun old => if old.isSome then none else some value

/-- The entries with what a key gives.  The table that a dotted key ends in is one made by dotted
keys. -/
def addEntry (key : Key) (value : Toml) (entries : Entries) : Option Entries :=
  descend .dotted (fun origin inner =>
    if (origin == .dotted) == key.path.isEmpty then none else addNew key.name value inner)
    key.path .declared entries

/-- The table of the entries between braces. -/
def closedTable? (entries : List (Key × Toml)) : Option Toml :=
  (entries.foldlM (fun table entry => addEntry entry.1 entry.2 table) []).map (.table .closed)

/-! ## Lines -/

/-- The whole table so far, and the path of the table opened last. -/
structure Building where
  root : Entries := []
  opened : List String := []

/-- Opens a table that nothing has declared. -/
def openTable : Option Toml → Option Toml
  | none => some (.table .declared [])
  | some (.table .implied entries) => some (.table .declared entries)
  | some _ => none

/-- Opens one more table of a list of tables. -/
def openNext : Option Toml → Option Toml
  | none => some (.tables [[]])
  | some (.tables items) => some (.tables (items ++ [[]]))
  | some _ => none

/-- Changes what a header names. -/
def Building.open (b : Building) (key : Key) (change : Option Toml → Option Toml) :
    Option Building :=
  (descend .implied (fun _ entries => changeAt key.name change entries) key.path .declared
    b.root).map fun root => ⟨root, key.path ++ [key.name]⟩

/-- What a line adds. -/
def Building.add (b : Building) : Line → Option Building
  | .header key => b.open key openTable
  | .listHeader key => b.open key openNext
  | .entry key value =>
    (descend .implied (fun _ entries => addEntry key value entries) b.opened .declared b.root).map
      fun root => { b with root := root }

/-- The table that the lines describe. -/
def ofLines? (lines : List Line) : Option Entries :=
  (lines.foldlM Building.add {}).map Building.root

end Toml

end ClientForge
