/-
  The tree that a reader finds in a text, before anything is known about what it should mean.

  A JSON text gives scalars of a known type.  A YAML text gives scalars as they were written, with
  their style and tag; their type is decided only where any value may stand.  A number out of
  range or a text that is not Unicode is kept as unreadable: it does no harm where the document is
  not looked at, and is refused where it is.
-/
import ClientForge.Decimal.Binary64

namespace ClientForge

/-- How a scalar was written. -/
inductive Style where
  /-- Without quotes, on the line. -/
  | plain
  /-- As a block whose line ends are kept. -/
  | literal
  /-- Between quotes, or as a folded block. -/
  | quoted
deriving DecidableEq, Repr

/-- A scalar as it was written. -/
structure Written where
  text : String
  style : Style
  tag : Option String
deriving DecidableEq, Repr

/-- A scalar found in a text. -/
inductive Scalar where
  | null
  | bool (b : Bool)
  | integer (n : Int)
  | real (x : Binary64)
  | text (s : String)
  /-- A scalar that has no value, such as a number out of range. -/
  | unreadable
  /-- A scalar whose type is still open. -/
  | written (w : Written)
deriving DecidableEq, Repr

/-- What kind of text a collection stands in. -/
inductive Origin where
  /-- One in which scalars have a type. -/
  | typed
  /-- One in which they are written, with the tag of the collection. -/
  | written (tag : Option String)
deriving DecidableEq, Repr

/-- A tree found in a text. -/
inductive Node where
  | scalar (s : Scalar)
  | list (origin : Origin) (items : List Node)
  | table (origin : Origin) (entries : List (Node × Node))
  /-- Another mention of the anchored node with that number. -/
  | mention (anchor : Nat)
  /-- No document at all. -/
  | nothing
deriving Inhabited, Repr

/-- A text that has been read: its tree, its anchored nodes, and how deep collections may nest
where they are looked at. -/
structure Source where
  root : Node
  anchors : List (Nat × Node) := []
  maxDepth : Nat

end ClientForge
