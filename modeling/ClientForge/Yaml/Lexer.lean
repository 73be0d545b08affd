/-
  From a YAML text to its tokens.

  The state keeps the place in the text, the tokens so far, the indentations of the open blocks,
  how deep the brackets nest, whether a key may begin here, and for each depth of brackets the
  place where the last possible key began.  A possible key is dropped when its line ends or when
  it grows too long; one that had to be a key is then an error.
-/
import ClientForge.Yaml.Folding
import ClientForge.Yaml.Token

namespace ClientForge.Yaml

/-! ## The state -/

/-- A place where a key may have begun. -/
structure PossibleKey where
  /-- Whether nothing but a key may stand there. -/
  isRequired : Bool
  /-- How many tokens came before it. -/
  tokenNumber : Nat
  index : Nat
  line : Nat
  column : Nat
deriving Repr, Inhabited

/-- The state between two tokens. -/
structure Lexing where
  cursor : Cursor
  /-- More than the length of the text, which bounds the rounds of every loop. -/
  limit : Nat
  /-- The tokens so far, the last one first. -/
  tokens : List Token := []
  /-- How many tokens there are. -/
  count : Nat := 0
  indent : Int := -1
  /-- The indentations around the innermost block. -/
  outer : List Int := []
  keyAllowed : Bool := true
  /-- The possible key outside of brackets or in the innermost ones. -/
  possibleKey : Option PossibleKey := none
  /-- The possible keys around the innermost brackets, one for each depth. -/
  outerKeys : List (Option PossibleKey) := []
deriving Inhabited

namespace Lexing

/-- Whether inside of brackets. -/
def inFlow (state : Lexing) : Bool := !state.outerKeys.isEmpty

/-- Adds a token. -/
def add (state : Lexing) (token : Token) : Lexing :=
  { state with tokens := token :: state.tokens, count := state.count + 1 }

/-- Puts a token in behind the first `number` ones. -/
def putIn (state : Lexing) (number : Nat) (token : Token) : Lexing :=
  let later := state.count - number
  { state with
    tokens := state.tokens.take later ++ token :: state.tokens.drop later
    count := state.count + 1 }

/-! ## Indentation -/

/-- Closes the blocks that stand further right than the column. -/
def closeBlocks (column : Int) (state : Lexing) : Lexing :=
  if state.inFlow then state
  else
    let rec close : List Int → Lexing → Lexing
      | [], state => state
      | outer :: rest, state =>
        if column < state.indent then
          close rest { state.add .blockEnd with indent := outer, outer := rest }
        else state
    close state.outer state

/-- Opens a block at the column if it stands further right; its token goes behind the first
`number` ones. -/
def openBlock (state : Lexing) (column number : Nat) (token : Token) : Lexing :=
  if state.inFlow || (column : Int) ≤ state.indent then state
  else
    { state.putIn number token with
      outer := state.indent :: state.outer
      indent := column }

/-! ## Possible keys -/

/-- Drops the possible key; one that had to be a key is an error. -/
def dropKey? (state : Lexing) : Option Lexing :=
  if state.possibleKey.any PossibleKey.isRequired then none
  else some { state with possibleKey := none }

/-- Notes that a key may begin here. -/
def noteKey? (state : Lexing) : Option Lexing :=
  if !state.keyAllowed then some state
  else do
    let isRequired := !state.inFlow && state.indent == (state.cursor.column : Int)
    let state ← state.dropKey?
    let key : PossibleKey := {
      isRequired
      tokenNumber := state.count
      index := state.cursor.index
      line := state.cursor.line
      column := state.cursor.column }
    pure { state with possibleKey := some key }

/-- Whether a possible key can no longer become one here. -/
def isStale (cursor : Cursor) (key : PossibleKey) : Bool :=
  key.line < cursor.line || key.index + 1024 < cursor.index

/-- A possible key unless it is stale; one that had to be a key is then an error. -/
def fresh? (cursor : Cursor) (key : Option PossibleKey) : Option (Option PossibleKey) :=
  match key with
  | none => some none
  | some key =>
    if !isStale cursor key then some (some key)
    else if key.isRequired then none
    else some none

/-- Drops the possible keys that are stale. -/
def dropStale? (state : Lexing) : Option Lexing := do
  let outerKeys ← state.outerKeys.mapM (fresh? state.cursor)
  let possibleKey ← fresh? state.cursor state.possibleKey
  pure { state with possibleKey, outerKeys }

/-! ## Between tokens -/

/-- The state at the next token: behind blanks, comments and line ends.  A tab counts as a blank
only where no key may begin. -/
def toNextToken : Nat → Lexing → Lexing
  | 0, state => state
  | steps + 1, state =>
    let start := state.cursor
    let start := if start.index == 0 && start.rest.head? == some '\ufeff' then start.skip 1
      else start
    let tabs := state.inFlow || !state.keyAllowed
    let cursor := start.skipWhile fun c => c == ' ' || (tabs && c == '\t')
    let cursor := if cursor.rest.head? == some '#' then cursor.skipLineRest else cursor
    match cursor.readBreak? with
    | some (_, next) =>
      toNextToken steps { state with
        cursor := next, keyAllowed := state.keyAllowed || !state.inFlow }
    | none => { state with cursor }

/-! ## Directives -/

/-- Reads a number of at most nine digits. -/
def readNumber? (cursor : Cursor) : Option (Nat × Cursor) := do
  let (ds, next) := cursor.readWhile Char.isDigit
  if ds.isEmpty || 9 < ds.length then none
  pure (ds.foldl (fun n c => 10 * n + (c.toNat - '0'.toNat)) 0, next)

/-- Reads a handle: an exclamation mark, name characters, and possibly another mark. -/
def readHandle? (isDirective : Bool) (cursor : Cursor) : Option (List Char × Cursor) := do
  if cursor.rest.head? != some '!' then none
  let (name, next) := (cursor.skip 1).readWhile isNameChar
  if next.rest.head? == some '!' then pure ('!' :: name ++ ['!'], next.skip 1)
  else if isDirective && !name.isEmpty then none
  else pure ('!' :: name, next)

/-- Whether the character may stand in a tag; some only between angle brackets. -/
def isTagChar (isOpen : Bool) (c : Char) : Bool :=
  isNameChar c
    || [';', '/', '?', ':', '@', '&', '=', '+', '$', '.', '!', '~', '*', '\x27', '(', ')'].contains c
    || (isOpen && [',', '[', ']'].contains c)

/-- How many octets the first one of a character announces. -/
def octetCount? (octet : Nat) : Option Nat :=
  if octet < 0x80 then some 1
  else if octet < 0xC0 then none
  else if octet < 0xE0 then some 2
  else if octet < 0xF0 then some 3
  else if octet < 0xF8 then some 4
  else none

/-- Reads one octet in percent encoding. -/
def readOctet? (cursor : Cursor) : Option (Nat × Cursor) :=
  match cursor.rest with
  | '%' :: a :: b :: _ => (digits? 16 [a, b]).map fun n => (n, cursor.skip 3)
  | _ => none

/-- Reads the octets of a character behind its first one. -/
def readOctets? : Nat → Nat → Cursor → Option (Nat × Cursor)
  | 0, value, cursor => some (value, cursor)
  | owed + 1, value, cursor => do
    let (octet, next) ← readOctet? cursor
    if octet < 0x80 || 0xC0 ≤ octet then none
    readOctets? owed (value * 64 + (octet - 0x80)) next

/-- Reads a character in percent encoding; a number without a character is replaced. -/
def readEncoded? (cursor : Cursor) : Option (Char × Cursor) := do
  let (first, next) ← readOctet? cursor
  let count ← octetCount? first
  let lead := if count = 1 then first else first % Nat.pow 2 (7 - count)
  let (value, next) ← readOctets? (count - 1) lead next
  pure ((charOf? value).getD '\ufffd', next)

/-- Reads the characters of a tag. -/
def readTagChars? (isOpen : Bool) : Nat → List Char → Cursor → Option (List Char × Cursor)
  | 0, _, _ => none
  | steps + 1, read, cursor =>
    match cursor.rest with
    | c :: _ =>
      if c == '%' then do
        let (d, next) ← readEncoded? cursor
        readTagChars? isOpen steps (read ++ [d]) next
      else if isTagChar isOpen c then
        readTagChars? isOpen steps (read ++ [c]) (cursor.skip 1)
      else some (read, cursor)
    | [] => some (read, cursor)

/-- Reads the characters of a tag behind a head that belongs to it; there must be some. -/
def readTagText? (isOpen : Bool) (head : List Char) (limit : Nat) (cursor : Cursor) :
    Option (List Char × Cursor) := do
  let (read, next) ← readTagChars? isOpen limit [] cursor
  if head.isEmpty && read.isEmpty then none
  pure (head.drop 1 ++ read, next)

/-- Reads what stands behind the name of a directive. -/
def readDirectiveValue? (name : List Char) (limit : Nat) (cursor : Cursor) :
    Option (Token × Cursor) := do
  let cursor := cursor.skipWhile isBlank
  if name == "YAML".toList then
    let (major, next) ← readNumber? cursor
    if next.rest.head? != some '.' then none
    let (minor, next) ← readNumber? (next.skip 1)
    pure (.versionDirective major minor, next)
  else if name == "TAG".toList then
    let (handle, next) ← readHandle? true cursor
    if !next.rest.head?.any isBlank then none
    let (meaning, next) ← readTagText? true [] limit (next.skipWhile isBlank)
    if !atBlank next.rest then none
    pure (.tagDirective (String.ofList handle) (String.ofList meaning), next)
  else none

/-- Reads a directive and the rest of its line. -/
def readDirective? (limit : Nat) (cursor : Cursor) : Option (Token × Cursor) := do
  let (name, next) := (cursor.skip 1).readWhile isNameChar
  if name.isEmpty || !atBlank next.rest then none
  let (token, next) ← readDirectiveValue? name limit next
  let next := next.skipWhile isBlank
  let next := if next.rest.head? == some '#' then next.skipLineRest else next
  if !atBreak next.rest then none
  pure (token, next.skipBreak)

/-! ## Anchors and tags -/

/-- Reads the name of an anchor or of a mention. -/
def readAnchor? (cursor : Cursor) : Option (String × Cursor) := do
  let (name, next) := (cursor.skip 1).readWhile isNameChar
  let isEnd := atBlank next.rest
    || next.rest.head?.any ['?', ':', ',', ']', '\x7d', '%', '@', '\x60'].contains
  if name.isEmpty || !isEnd then none
  pure (String.ofList name, next)

/-- Reads a tag without looking at what follows it: its handle and its ending. -/
def readTagParts? (limit : Nat) (cursor : Cursor) : Option (List Char × List Char × Cursor) :=
  if cursor.rest.take 2 == ['!', '<'] then do
    let (text, next) ← readTagText? true [] limit (cursor.skip 2)
    if next.rest.head? != some '>' then none
    pure ([], text, next.skip 1)
  else do
    let (handle, next) ← readHandle? false cursor
    if 1 < handle.length && handle.getLast? == some '!' then
      let (text, next) ← readTagText? false [] limit next
      pure (handle, text, next)
    else
      let (text, next) ← readTagText? false handle limit next
      pure (if text.isEmpty then ([], ['!'], next) else (['!'], text, next))

/-- Reads a tag. -/
def readTag? (inFlow : Bool) (limit : Nat) (cursor : Cursor) : Option (Token × Cursor) := do
  let (handle, text, next) ← readTagParts? limit cursor
  if !(atBlank next.rest || (inFlow && next.rest.head? == some ',')) then none
  pure (.tag (String.ofList handle) (String.ofList text), next)

/-! ## Tokens -/

/-- The state behind a token that ends what came before it. -/
def mark? (state : Lexing) (token : Token) (width : Nat) (keyAllowed : Bool) : Option Lexing := do
  let state ← state.dropKey?
  pure { state.add token with cursor := state.cursor.skip width, keyAllowed }

/-- A token that can only stand at the start of a line and closes every block. -/
def topLevel? (state : Lexing) (token : Token) (width : Nat) : Option Lexing :=
  (state.closeBlocks (-1)).mark? token width false

/-- An opening bracket. -/
def openFlow? (state : Lexing) (token : Token) : Option Lexing := do
  let state ← state.noteKey?
  pure { state.add token with
    cursor := state.cursor.skip 1
    outerKeys := state.possibleKey :: state.outerKeys
    possibleKey := none
    keyAllowed := true }

/-- A closing bracket. -/
def closeFlow? (state : Lexing) (token : Token) : Option Lexing := do
  let state ← state.dropKey?
  let state : Lexing := match state.outerKeys with
    | key :: rest => { state with possibleKey := key, outerKeys := rest }
    | [] => state
  pure { state.add token with cursor := state.cursor.skip 1, keyAllowed := false }

/-- The hyphen before an item of a block. -/
def blockEntry? (state : Lexing) : Option Lexing :=
  if state.inFlow then state.mark? .blockEntry 1 true
  else if !state.keyAllowed then none
  else (state.openBlock state.cursor.column state.count .blockSequenceStart).mark? .blockEntry 1 true

/-- The question mark before a key. -/
def keyMark? (state : Lexing) : Option Lexing :=
  if state.inFlow then state.mark? .key 1 false
  else if !state.keyAllowed then none
  else (state.openBlock state.cursor.column state.count .blockMappingStart).mark? .key 1 true

/-- The colon before a value.  If a key may have begun earlier on the line, it did. -/
def valueMark? (state : Lexing) : Option Lexing :=
  match state.possibleKey with
  | some key =>
    let state := (state.putIn key.tokenNumber .key).openBlock key.column key.tokenNumber
      .blockMappingStart
    some { state.add .value with
      cursor := state.cursor.skip 1, possibleKey := none, keyAllowed := false }
  | none =>
    if state.inFlow then
      some { state.add .value with cursor := state.cursor.skip 1, keyAllowed := false }
    else if !state.keyAllowed then none
    else
      let state := state.openBlock state.cursor.column state.count .blockMappingStart
      some { state.add .value with cursor := state.cursor.skip 1, keyAllowed := true }

/-- A token with content that may be, or begin, a key. -/
def content? (state : Lexing) (read : Lexing → Option (Token × Cursor)) : Option Lexing := do
  let state ← state.noteKey?
  let (token, cursor) ← read state
  pure { state.add token with cursor, keyAllowed := false }

/-- A block scalar. -/
def block? (state : Lexing) (isLiteral : Bool) : Option Lexing := do
  let state ← state.dropKey?
  let (text, cursor) ← readBlock? isLiteral state.indent state.limit (state.cursor.skip 1)
  let token : Token := .scalar (String.ofList text) (if isLiteral then .literal else .quoted)
  pure { state.add token with cursor, keyAllowed := true }

/-- A quoted scalar. -/
def quoted? (state : Lexing) (quote : Char) : Option Lexing :=
  state.content? fun state => do
    let (text, cursor) ← readQuoted? quote state.limit [] (state.cursor.skip 1)
    pure (.scalar (String.ofList text) .quoted, cursor)

/-- A plain scalar.  Where it ends at the start of a line a key may begin. -/
def plain? (state : Lexing) : Option Lexing := do
  let state ← state.noteKey?
  let (text, broken, cursor) ←
    readPlain? state.inFlow (state.indent + 1) state.limit [] {} state.cursor
  pure { state.add (.scalar (String.ofList text) .plain) with cursor, keyAllowed := broken }

/-- Whether a plain scalar may begin with the characters. -/
def beginsPlain (inFlow : Bool) : List Char → Bool
  | [] => false
  | c :: rest =>
    let isIndicator := ['-', '?', ':', ',', '[', ']', '\x7b', '\x7d', '#', '&', '*', '!', '|', '>',
      '\x27', '"', '%', '@', '\x60'].contains c
    !(isBlank c || isBreak c || isIndicator)
      || (c == '-' && !rest.head?.any isBlank)
      || (!inFlow && (c == '?' || c == ':') && !atBlank rest)

/-- The token that begins with the character here; `none` where none can. -/
def token? (state : Lexing) (c : Char) (rest : List Char) : Option Lexing :=
  let inFlow := state.inFlow
  let isAlone := atBlank rest
  match c with
  | '[' => state.openFlow? .flowSequenceStart
  | '\x7b' => state.openFlow? .flowMappingStart
  | ']' => state.closeFlow? .flowSequenceEnd
  | '\x7d' => state.closeFlow? .flowMappingEnd
  | ',' => state.mark? .flowEntry 1 true
  | '*' => state.content? fun s => (readAnchor? s.cursor).map fun (name, c) => (.mention name, c)
  | '&' => state.content? fun s => (readAnchor? s.cursor).map fun (name, c) => (.anchor name, c)
  | '!' => state.content? fun s => readTag? inFlow s.limit s.cursor
  | '\x27' => state.quoted? '\x27'
  | '"' => state.quoted? '"'
  | c =>
    if c == '-' && isAlone then state.blockEntry?
    else if c == '?' && (inFlow || isAlone) then state.keyMark?
    else if c == ':' && (inFlow || isAlone) then state.valueMark?
    else if c == '|' && !inFlow then state.block? true
    else if c == '>' && !inFlow then state.block? false
    else if beginsPlain inFlow (c :: rest) then state.plain?
    else none

/-- The state behind the next token, and whether it was the last. -/
def next? (state : Lexing) : Option (Lexing × Bool) := do
  let state := state.toNextToken state.limit
  let state ← state.dropStale?
  let state := state.closeBlocks state.cursor.column
  match state.cursor.rest with
  | [] =>
    let state ← (state.closeBlocks (-1)).dropKey?
    pure (state, true)
  | c :: rest =>
    let next ←
      if state.cursor.column == 0 && c == '%' then do
        let state ← (state.closeBlocks (-1)).dropKey?
        let (token, cursor) ← readDirective? state.limit state.cursor
        pure { state.add token with cursor, keyAllowed := false }
      else if state.cursor.atMarker '-' then state.topLevel? .documentStart 3
      else if state.cursor.atMarker '.' then state.topLevel? .documentEnd 3
      else state.token? c rest
    pure (next, false)

/-- The tokens from a state on, all of them with the last one first. -/
def tokens? : Nat → Lexing → Option (List Token)
  | 0, _ => none
  | steps + 1, state => do
    let (state, isLast) ← state.next?
    if isLast then pure state.tokens else tokens? steps state

end Lexing

/-- The tokens of a text. -/
def tokens? (text : List Char) : Option (List Token) :=
  if !text.all isAllowed then none
  else 
    let limit := text.length + 2
    (Lexing.tokens? limit { cursor := { rest := text }, limit }).map List.reverse

end ClientForge.Yaml
