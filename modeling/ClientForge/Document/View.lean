/-
  Looking at a tree as text, as a flag, as a list, as a record.

  What counts as what depends on where the tree comes from.  In a text with typed scalars only a
  text is a text; a written scalar is a text wherever one is wanted, and null, a flag or an empty
  collection by its spelling.  A record is a table whose unknown members are passed over and whose
  known members stand once; among typed values it may also be the list of its members in order.

  Looking into a collection takes one level of the depth that is left; what is passed over is
  never looked into.
-/
import ClientForge.Document.Node
import ClientForge.Json.Basic
import ClientForge.Yaml.Scalar

namespace ClientForge.View

/-- The anchored nodes of a text by number. -/
abbrev Anchors := List (Nat × Node)

/-- The node that is meant, where it is a mention. -/
def follow (anchors : Anchors) : Node → Node
  | .mention anchor => (anchors.lookup anchor).getD .nothing
  | node => node

/-- Whether a node is no value at all, which counts as an empty collection. -/
def isEmpty : Node → Bool
  | .nothing => true
  | .scalar (.written w) => w.style == .plain && w.text.isEmpty
  | _ => false

/-! ## Single values -/

/-- The text that a node is. -/
def text? (anchors : Anchors) (node : Node) : Option String :=
  match follow anchors node with
  | .scalar (.text s) => some s
  | .scalar (.written w) => some w.text
  | _ => none

/-- Whether a value is there or null stands in its place; neither where null is badly spelled. -/
def present? (anchors : Anchors) (node : Node) : Option Bool :=
  match follow anchors node with
  | .nothing => some false
  | .scalar .null => some false
  | .scalar (.written w) =>
    if w.style != .plain then some true
    else match w.tag with
      | none => some (!(w.text.isEmpty || Yaml.isNull w.text))
      | some tag =>
        if tag == Yaml.coreTag ++ "null" then if Yaml.isNull w.text then some false else none
        else some true
  | _ => some true

/-- The flag that a node is. -/
def flag? (anchors : Anchors) (node : Node) : Option Bool :=
  match follow anchors node with
  | .scalar (.bool b) => some b
  | .scalar (.written w) =>
    if w.style == .plain || (w.style == .literal && w.tag == some (Yaml.coreTag ++ "bool")) then
      Yaml.bool? w.text
    else none
  | _ => none

/-! ## Collections -/

/-- The items of a list. -/
def items? (anchors : Anchors) (depth : Nat) (node : Node) : Option (List Node) :=
  match follow anchors node with
  | .list _ items => if depth == 0 then none else some items
  | other => if isEmpty other then some [] else none

/-- The entries of a table under text keys. -/
def entries? (anchors : Anchors) (depth : Nat) (node : Node) : Option (List (String × Node)) :=
  match follow anchors node with
  | .table _ entries =>
    if depth == 0 then none
    else entries.mapM fun (key, value) => (text? anchors key).map fun key => (key, value)
  | other => if isEmpty other then some [] else none

/-- The name of the member that a key is for.  Among typed values a whole number is the place of a
member; one that no member has is passed over. -/
def memberName? (anchors : Anchors) (names : List String) (origin : Origin) (key : Node) :
    Option String :=
  match origin, follow anchors key with
  | .typed, .scalar (.integer n) => if n < 0 then none else some (names[n.toNat]?.getD "")
  | _, key => text? anchors key

/-- Whether a name stands twice in a row. -/
def hasRepeat : List String → Bool
  | [] => false
  | name :: rest => rest.contains name || hasRepeat rest

/-- The members of those names that a record has, each once.  A list may lack the ones in `spare`
at its end. -/
def record? (anchors : Anchors) (names spare : List String) (depth : Nat) (node : Node) :
    Option (List (String × Node)) :=
  match follow anchors node with
  | .table origin entries =>
    if depth == 0 then none
    else do
      let named ← entries.mapM fun (key, value) =>
        (memberName? anchors names origin key).map fun name => (name, value)
      let known := named.filter fun (name, _) => names.contains name
      if hasRepeat (known.map Prod.fst) then none else some known
  | .list .typed items =>
    if depth == 0 || items.length > names.length then none
    else if (names.drop items.length).all spare.contains then some (names.zip items)
    else none
  | other => if isEmpty other then some [] else none

/-- Reads a member that may be missing or null. -/
def optional {α : Type} (anchors : Anchors) (fields : List (String × Node)) (name : String)
    (read : Node → Option α) : Option (Option α) :=
  match fields.lookup name with
  | none => some none
  | some node => do
    if ← present? anchors node then (read node).map some else some none

/-- Reads a member that stands for `default` where it is missing. -/
def defaulted {α : Type} (fields : List (String × Node)) (name : String) (default : α)
    (read : Node → Option α) : Option α :=
  match fields.lookup name with
  | none => some default
  | some node => read node

/-- Reads a list of values. -/
def listOf {α : Type} (anchors : Anchors) (depth : Nat) (read : Node → Option α) (node : Node) :
    Option (List α) := do
  (← items? anchors depth node).mapM read

/-- Reads a map of values; of two entries with one key the later counts. -/
def tableOf {α : Type} (anchors : Anchors) (depth : Nat) (read : Node → Option α) (node : Node) :
    Option (Table α) := do
  let entries ← (← entries? anchors depth node).mapM fun (key, value) =>
    (read value).map fun value => (key, value)
  some (Table.ofList entries)

/-! ## Any value -/

/-- The scalar with its type decided. -/
def typedScalar? : Scalar → Option Scalar
  | .written w => Yaml.resolve? w
  | .unreadable => none
  | s => some s

/-- Whether a collection has a tag of the document's own, which no value can have. -/
def isOwn : Origin → Bool
  | .typed => false
  | .written tag => Yaml.isOwnTag tag

/-- The tree with the type of every scalar decided and every mention replaced. -/
def typed? (anchors : Anchors) : Nat → Node → Option Node
  | depth, node => match follow anchors node, depth with
    | .scalar s, _ => (typedScalar? s).map Node.scalar
    | .nothing, _ => some (.scalar .null)
    | .list origin items, depth + 1 =>
      if isOwn origin then none
      else (items.mapM (typed? anchors depth)).map (Node.list .typed)
    | .table origin entries, depth + 1 =>
      if isOwn origin then none
      else do
        let entries ← entries.mapM fun (key, value) => do
          pure (← typed? anchors depth key, ← typed? anchors depth value)
        pure (.table .typed entries)
    | _, _ => none

/-- The JSON value of a scalar with its type decided. -/
def jsonScalar? : Scalar → Option Json
  | .null => some .null
  | .bool b => some (.bool b)
  | .integer n => some (.integer n)
  | .real x => some (.ofReal x)
  | .text s => some (.text s)
  | _ => none

/-- The JSON value of a tree. -/
def json? (anchors : Anchors) : Nat → Node → Option Json
  | depth, node => match follow anchors node, depth with
    | .scalar s, _ => (typedScalar? s).bind jsonScalar?
    | .nothing, _ => some .null
    | .list origin items, depth + 1 =>
      if isOwn origin then none else (items.mapM (json? anchors depth)).map Json.array
    | .table origin entries, depth + 1 =>
      if isOwn origin then none
      else do
        let entries ← entries.mapM fun (key, value) => do
          pure (← text? anchors key, ← json? anchors depth value)
        pure (Json.ofEntries entries)
    | _, _ => none

end ClientForge.View
