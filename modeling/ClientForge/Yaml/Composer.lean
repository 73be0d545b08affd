/-
  From the tokens of a YAML text to its tree.

  The grammar is read by recursive descent, a bound on the number of steps being the structural
  argument.  Anchored nodes are numbered by how many different names there were before, so a name
  given a second time may share its number with a later one; a number stands for the node that
  began last.  A text holds at most one document.
-/
import ClientForge.Yaml.Lexer

namespace ClientForge.Yaml

/-! ## The state -/

/-- The state of the reading. -/
structure Composing where
  /-- The tokens still to be read. -/
  tokens : List Token
  /-- What the handles of tags stand for. -/
  handles : List (String × String) := []
  /-- The numbers of the anchors by name, the latest for each. -/
  names : List (String × Nat) := []
  /-- For each number, which of the anchored nodes began last under it. -/
  starts : List (Nat × Nat) := []
  /-- How many anchored nodes have begun. -/
  begun : Nat := 0
  /-- The anchored nodes that are complete, by number. -/
  anchors : List (Nat × Node) := []
  /-- How many scalars, mentions, and starts and ends of collections there were. -/
  events : Nat := 0
deriving Inhabited

/-- A reading step. -/
abbrev Compose := StateT Composing Option

namespace Compose

/-- The next token; none at the end. -/
def peek : Compose (Option Token) := return (← get).tokens.head?

/-- Goes past the next token. -/
def pass : Compose Unit := modify fun state => { state with tokens := state.tokens.drop 1 }

/-- Counts events. -/
def count (number : Nat) : Compose Unit :=
  modify fun state => { state with events := state.events + number }

/-- The node where nothing stands. -/
def emptyScalar : Compose Node := do
  count 1
  return .scalar (.written ⟨"", .plain, none⟩)

/-! ## Anchors and tags -/

/-- An anchored node that has begun: its number, and which of them it is. -/
abbrev Begun := Option (Nat × Nat)

/-- Begins a node that may be anchored. -/
def begin (name : Option String) : Compose Begun := do
  match name with
  | none => return none
  | some name =>
    let state ← get
    let number := state.names.length
    let others := state.names.filter fun entry => entry.1 != name
    set { state with
      names := (name, number) :: others
      starts := (number, state.begun) :: state.starts
      begun := state.begun + 1 }
    return some (number, state.begun)

/-- Completes a node that may be anchored. -/
def complete (begun : Begun) (node : Node) : Compose Node := do
  match begun with
  | none => return node
  | some (number, start) =>
    modify fun state =>
      if state.starts.lookup number == some start then
        { state with anchors := (number, node) :: state.anchors }
      else state
    return node

/-- The tag that a handle and an ending stand for; the handle must be known. -/
def resolveTag (handle ending : String) : Compose String := do
  if handle.isEmpty then return ending
  match (← get).handles.lookup handle with
  | some meaning => return meaning ++ ending
  | none => failure

/-- The anchor and the tag in front of a node, in either order. -/
def properties : Compose (Option String × Option String) := do
  let resolve (handle ending : String) : Compose (Option String) :=
    return some (← resolveTag handle ending)
  match (← get).tokens with
  | .anchor name :: .tag handle ending :: _ =>
    pass; pass
    return (some name, ← resolve handle ending)
  | .tag handle ending :: .anchor name :: _ =>
    pass; pass
    return (some name, ← resolve handle ending)
  | .anchor name :: _ =>
    pass
    return (some name, none)
  | .tag handle ending :: _ =>
    pass
    return (none, ← resolve handle ending)
  | _ => return (none, none)

/-! ## Nodes -/

/-- Whether a value may be left out before the token. -/
def endsBlockItem : Option Token → Bool
  | some .key | some .value | some .blockEnd => true
  | _ => false

/-- Whether an item of a list in brackets ends before the token. -/
def endsFlowItem : Option Token → Bool
  | some .flowEntry | some .flowSequenceEnd => true
  | _ => false

/-- Whether an entry of a table in braces ends before the token. -/
def endsFlowEntry : Option Token → Bool
  | some .flowEntry | some .flowMappingEnd => true
  | _ => false

mutual

/-- A node.  A block may begin only where `isBlock` holds, and a list that is not indented only
where `isLoose` does. -/
def node (isBlock isLoose : Bool) : Nat → Compose Node
  | 0 => failure
  | steps + 1 => do
    match ← peek with
    | some (.mention name) =>
      pass
      count 1
      match (← get).names.lookup name with
      | some number => return .mention number
      | none => failure
    | _ =>
      let (anchor, tag) ← properties
      let begun ← begin anchor
      let list (read : Compose (List Node)) : Compose Node := do
        let items ← read
        count 2
        complete begun (.list (.written tag) items)
      let table (read : Compose (List (Node × Node))) : Compose Node := do
        let entries ← read
        count 2
        complete begun (.table (.written tag) entries)
      match ← peek with
      | some .blockEntry =>
        if isLoose then list (looseItems steps)
        else if anchor.isSome || tag.isSome then emptyNode begun tag
        else failure
      | some (.scalar text style) =>
        pass
        count 1
        let tag := if tag == some "!" then none else tag
        complete begun (.scalar (.written ⟨text, style, tag⟩))
      | some .flowSequenceStart =>
        pass
        list (flowItems true steps)
      | some .flowMappingStart =>
        pass
        table (flowEntries true steps)
      | some .blockSequenceStart =>
        if isBlock then
          pass
          list (blockItems steps)
        else if anchor.isSome || tag.isSome then emptyNode begun tag
        else failure
      | some .blockMappingStart =>
        if isBlock then
          pass
          table (blockEntries steps)
        else if anchor.isSome || tag.isSome then emptyNode begun tag
        else failure
      | _ => if anchor.isSome || tag.isSome then emptyNode begun tag else failure

/-- A node of which only the anchor and the tag are there. -/
def emptyNode (begun : Begun) (tag : Option String) : Compose Node := do
  count 1
  complete begun (.scalar (.written ⟨"", .plain, tag⟩))

/-- The items of an indented list. -/
def blockItems : Nat → Compose (List Node)
  | 0 => failure
  | steps + 1 => do
    match ← peek with
    | some .blockEntry =>
      pass
      let item ← match ← peek with
        | some .blockEntry => emptyScalar
        | some .blockEnd => emptyScalar
        | _ => node true false steps
      return item :: (← blockItems steps)
    | some .blockEnd =>
      pass
      return []
    | _ => failure

/-- The items of a list that is not indented. -/
def looseItems : Nat → Compose (List Node)
  | 0 => failure
  | steps + 1 => do
    match ← peek with
    | some .blockEntry =>
      pass
      let next ← peek
      let item ← if next == some .blockEntry || endsBlockItem next then emptyScalar
        else node true false steps
      return item :: (← looseItems steps)
    | _ => return []

/-- The entries of a table in block style. -/
def blockEntries : Nat → Compose (List (Node × Node))
  | 0 => failure
  | steps + 1 => do
    match ← peek with
    | some .key =>
      pass
      let key ← if endsBlockItem (← peek) then emptyScalar else node true true steps
      let value ← match ← peek with
        | some .value =>
          pass
          if endsBlockItem (← peek) then emptyScalar else node true true steps
        | _ => emptyScalar
      return (key, value) :: (← blockEntries steps)
    | some .blockEnd =>
      pass
      return []
    | _ => failure

/-- The items of a list in brackets; before every one but the first stands a comma. -/
def flowItems (isFirst : Bool) : Nat → Compose (List Node)
  | 0 => failure
  | steps + 1 => do
    if (← peek) == some .flowSequenceEnd then
      pass
      return []
    if !isFirst then
      if (← peek) != some .flowEntry then failure
      pass
    match ← peek with
    | some .flowSequenceEnd =>
      pass
      return []
    | some .key =>
      pass
      let item ← singleEntry steps
      return item :: (← flowItems false steps)
    | _ =>
      let item ← node false false steps
      return item :: (← flowItems false steps)

/-- A table of one entry inside of brackets, behind its mark.  Where the key is left out the token
in its place is lost. -/
def singleEntry : Nat → Compose Node
  | 0 => failure
  | steps + 1 => do
    let next ← peek
    let key ← if next == some .value || endsFlowItem next then do
        pass
        emptyScalar
      else node false false steps
    let value ← match ← peek with
      | some .value =>
        pass
        if endsFlowItem (← peek) then emptyScalar else node false false steps
      | _ => emptyScalar
    count 2
    return .table (.written none) [(key, value)]

/-- The entries of a table in braces; before every one but the first stands a comma. -/
def flowEntries (isFirst : Bool) : Nat → Compose (List (Node × Node))
  | 0 => failure
  | steps + 1 => do
    if (← peek) == some .flowMappingEnd then
      pass
      return []
    if !isFirst then
      if (← peek) != some .flowEntry then failure
      pass
    match ← peek with
    | some .flowMappingEnd =>
      pass
      return []
    | some .key =>
      pass
      let next ← peek
      let key ← if next == some .value || endsFlowEntry next then emptyScalar
        else node false false steps
      let value ← match ← peek with
        | some .value =>
          pass
          if endsFlowEntry (← peek) then emptyScalar else node false false steps
        | _ => emptyScalar
      return (key, value) :: (← flowEntries false steps)
    | _ =>
      let key ← node false false steps
      let value ← emptyScalar
      return (key, value) :: (← flowEntries false steps)

end

/-! ## The document -/

/-- The handles that every document knows. -/
def commonHandles : List (String × String) := [("!", "!"), ("!!", coreTag)]

/-- The directives in front of a document; `seenVersion` tells whether its version is given. -/
def directives (seenVersion : Bool) : List Token → Option (List (String × String) × List Token)
  | .versionDirective major minor :: rest =>
    if seenVersion || major != 1 || !(minor == 1 || minor == 2) then none
    else directives true rest
  | .tagDirective handle meaning :: rest => do
    let (handles, rest) ← directives seenVersion rest
    if (handles.lookup handle).isSome then none
    pure ((handle, meaning) :: handles, rest)
  | rest => some ([], rest)

/-- Whether the document has no content before the token. -/
def endsContent : Option Token → Bool
  | none => true
  | some .documentStart | some .documentEnd => true
  | some (.versionDirective ..) | some (.tagDirective ..) => true
  | _ => false

/-- The one document of the tokens, with whatever comes behind it. -/
def document (steps : Nat) : Compose Node := do
  let state ← get
  let (handles, rest) ← (directives false state.tokens : Option _)
  let isMarked := rest.head? == some .documentStart
  if !isMarked && rest.length != state.tokens.length then failure
  set { state with
    tokens := if isMarked then rest.drop 1 else rest
    handles := handles ++ commonHandles }
  if isMarked && endsContent (← peek) then emptyScalar else node true false steps

end Compose

/-! ## Mentions -/

mutual

/-- The anchors that a node mentions. -/
def mentions : Node → List Nat
  | .mention number => [number]
  | .list _ items => mentionsAll items
  | .table _ entries => mentionsEntries entries
  | .scalar _ => []
  | .nothing => []

/-- The anchors that the nodes of a list mention. -/
def mentionsAll : List Node → List Nat
  | [] => []
  | node :: rest => mentions node ++ mentionsAll rest

/-- The anchors that the entries of a table mention. -/
def mentionsEntries : List (Node × Node) → List Nat
  | [] => []
  | (key, value) :: rest => mentions key ++ mentions value ++ mentionsEntries rest

end

/-- How many mentions are followed if all of these are, given how many are followed inside each
anchored node. -/
def followed (inside : List (Nat × Nat)) (mentioned : List Nat) : Nat :=
  (mentioned.map fun number => 1 + (inside.lookup number).getD 0).foldl (· + ·) 0

/-- How many mentions are followed inside each anchored node, up to a depth. -/
def followedInside (anchors : List (Nat × List Nat)) : Nat → List (Nat × Nat)
  | 0 => []
  | depth + 1 =>
    let inside := followedInside anchors depth
    anchors.map fun (number, mentioned) => (number, followed inside mentioned)

/-! ## Reading -/

/-- How deep the collections of a YAML text may nest where they are looked at. -/
def maxDepth : Nat := 128

/-- How many mentions may be followed for each event. -/
def mentionsPerEvent : Nat := 100

/-- Reads a YAML text. -/
def read? (text : String) : Option Source := do
  let tokens ← tokens? text.toList
  if tokens.isEmpty then pure ⟨.nothing, [], maxDepth⟩
  else
    let (root, state) ← (Compose.document (4 * tokens.length + 8)).run { tokens }
    if !state.tokens.all (· == .documentEnd) then none
    let inside := followedInside (state.anchors.map fun (n, node) => (n, mentions node)) maxDepth
    if mentionsPerEvent * state.events < followed inside (mentions root) then none
    pure ⟨root, state.anchors, maxDepth⟩

end ClientForge.Yaml
