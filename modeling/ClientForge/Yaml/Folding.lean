/-
  The texts of YAML scalars.

  Between quotes and in a plain scalar a single line end is read as a space, and of several the
  first is dropped.  A literal block keeps its line ends; a folded one treats them in the same way
  between lines that begin with no blank.  Each function reads one scalar and gives its text and
  the place behind it, or nothing where the scalar is not well-formed.  Every loop reads at least
  one character in a round, so the length of the text bounds its rounds, and what is left of that
  bound also bounds the loops inside.
-/
import ClientForge.Document.Node
import ClientForge.Yaml.Cursor
import ClientForge.Yaml.Scalar

namespace ClientForge.Yaml

/-! ## White space inside a scalar -/

/-- White space between two parts of a scalar. -/
structure Gap where
  /-- The blanks, as long as no line has ended. -/
  blanks : List Char := []
  /-- Whether a line has ended. -/
  broken : Bool := false
  /-- The first line end. -/
  first : List Char := []
  /-- The line ends behind it. -/
  others : List Char := []
deriving Repr, Inhabited

/-- What a gap is read as. -/
def Gap.text (gap : Gap) : List Char :=
  if !gap.broken then gap.blanks
  else if gap.first == ['\n'] then if gap.others.isEmpty then [' '] else gap.others
  else gap.first ++ gap.others

/-- Reads blanks and line ends.  `tabLimit` is the column before which no tab may stand once a line
has ended. -/
def readGap? (tabLimit : Int) : Nat → Gap → Cursor → Option (Gap × Cursor)
  | 0, _, _ => none
  | steps + 1, gap, cursor =>
    match cursor.rest with
    | [] => some (gap, cursor)
    | c :: _ =>
      if isBlank c then
        if gap.broken && (cursor.column : Int) < tabLimit && c == '\t' then none
        else
          let gap := if gap.broken then gap else { gap with blanks := gap.blanks ++ [c] }
          readGap? tabLimit steps gap (cursor.skip 1)
      else match cursor.readBreak? with
        | some (lineEnd, next) =>
          let gap : Gap :=
            if gap.broken then { gap with others := gap.others ++ lineEnd }
            else { broken := true, first := lineEnd, others := gap.others }
          readGap? tabLimit steps gap next
        | none => some (gap, cursor)

/-! ## Between quotes -/

/-- How many digits follow an escape for a character's number. -/
def escapeWidth? (c : Char) : Option Nat :=
  match c with
  | 'x' => some 2
  | 'u' => some 4
  | 'U' => some 8
  | _ => none

/-- The character that a short escape stands for. -/
def shortEscape? (c : Char) : Option Char :=
  match c with
  | '0' => some '\x00'
  | 'a' => some '\x07'
  | 'b' => some '\x08'
  | 't' => some '\t'
  | '\t' => some '\t'
  | 'n' => some '\n'
  | 'v' => some '\x0b'
  | 'f' => some '\x0c'
  | 'r' => some '\r'
  | 'e' => some '\x1b'
  | ' ' => some ' '
  | '"' => some '"'
  | '/' => some '/'
  | '\\' => some '\\'
  | 'N' => some '\x85'
  | '_' => some '\xa0'
  | 'L' => some '\u2028'
  | 'P' => some '\u2029'
  | _ => none

/-- The character of a number, if there is one. -/
def charOf? (n : Nat) : Option Char :=
  if h : n.isValidChar then some (Char.ofNatAux n h) else none

/-- The character of an escape, given what stands behind the backslash, and the place behind it. -/
def readEscape? (cursor : Cursor) : Option (Char × Cursor) :=
  match cursor.rest with
  | [] => none
  | c :: rest =>
    match escapeWidth? c with
    | some width => do
      let digits := rest.take width
      if digits.length < width then none
      let value ← digits? 16 digits
      pure (← charOf? value, cursor.skip (width + 1))
    | none => (shortEscape? c).map fun d => (d, cursor.skip 1)

/-- Reads the part of a quoted scalar up to the next blank, line end or closing quote.  An escaped
line end counts as the start of a gap. -/
def readQuotedRun? (quote : Char) :
    Nat → List Char → Cursor → Option (List Char × Gap × Cursor)
  | 0, _, _ => none
  | steps + 1, read, cursor =>
    match cursor.rest with
    | [] => some (read, {}, cursor)
    | c :: rest =>
      if isBlank c || isBreak c then some (read, {}, cursor)
      else if c == quote then
        if quote == '\x27' && rest.head? == some quote then
          readQuotedRun? quote steps (read ++ [c]) (cursor.skip 2)
        else some (read, {}, cursor)
      else if quote == '"' && c == '\\' then
        if rest.head?.any isBreak then
          some (read, { broken := true }, (cursor.skip 1).skipBreak)
        else do
          let (d, next) ← readEscape? (cursor.skip 1)
          readQuotedRun? quote steps (read ++ [d]) next
      else readQuotedRun? quote steps (read ++ [c]) (cursor.skip 1)

/-- Reads a quoted scalar from behind its opening quote. -/
def readQuoted? (quote : Char) : Nat → List Char → Cursor → Option (List Char × Cursor)
  | 0, _, _ => none
  | steps + 1, read, cursor =>
    if cursor.atDocumentMarker || cursor.rest.isEmpty then none
    else do
      let (run, gap, cursor) ← readQuotedRun? quote (steps + 1) [] cursor
      let read := read ++ run
      if cursor.rest.head? == some quote then pure (read, cursor.skip 1)
      else
        let (gap, cursor) ← readGap? 0 (steps + 1) gap cursor
        readQuoted? quote steps (read ++ gap.text) cursor

/-! ## Plain -/

/-- Whether a plain scalar ends at these characters. -/
def endsPlain (inFlow : Bool) : List Char → Bool
  | [] => true
  | c :: rest => (c == ':' && atBlank rest) || (inFlow && isFlowIndicator c)

/-- Whether a colon stands here that must not stand inside a flow collection. -/
def isBadColon (inFlow : Bool) : List Char → Bool
  | ':' :: c :: _ => inFlow && (isFlowIndicator c || c == '?')
  | _ => false

/-- Reads the part of a plain scalar up to the next white space or its end. -/
def readPlainRun? (inFlow : Bool) : Nat → List Char → Cursor → Option (List Char × Cursor)
  | 0, _, _ => none
  | steps + 1, read, cursor =>
    if atBlank cursor.rest then some (read, cursor)
    else if isBadColon inFlow cursor.rest then none
    else if endsPlain inFlow cursor.rest then some (read, cursor)
    else readPlainRun? inFlow steps (read ++ cursor.rest.take 1) (cursor.skip 1)

/-- Reads a plain scalar whose lines stand no further left than `indent`: its text, whether a line
has ended behind it, and the place behind it. -/
def readPlain? (inFlow : Bool) (indent : Int) :
    Nat → List Char → Gap → Cursor → Option (List Char × Bool × Cursor)
  | 0, _, _, _ => none
  | steps + 1, read, gap, cursor =>
    if cursor.atDocumentMarker || cursor.rest.head? == some '#' then
      some (read, gap.broken, cursor)
    else do
      let (run, next) ← readPlainRun? inFlow (steps + 1) [] cursor
      let (read, gap) := if run.isEmpty then (read, gap) else (read ++ gap.text ++ run, {})
      if next.rest.isEmpty || !atBlank next.rest then pure (read, gap.broken, next)
      else
        let (gap, next) ← readGap? indent (steps + 1) gap next
        if !inFlow && (next.column : Int) < indent then pure (read, gap.broken, next)
        else readPlain? inFlow indent steps read gap next

/-! ## Blocks -/

/-- What becomes of the line ends behind a block. -/
inductive Chomping where
  /-- The first one stays. -/
  | clip
  /-- None stays. -/
  | strip
  /-- All stay. -/
  | keep
deriving DecidableEq, Repr

/-- The chomping that a character asks for. -/
def chomping? (c : Char) : Option Chomping :=
  if c == '+' then some .keep else if c == '-' then some .strip else none

/-- The indentation that a character asks for; nought is none. -/
def increment? (c : Char) : Option Nat :=
  if c.isDigit && c != '0' then some (c.toNat - '0'.toNat) else none

/-- The chomping and the indentation behind the mark of a block, in either order. -/
def readHeader? (cursor : Cursor) : Option (Chomping × Nat × Cursor) :=
  let increment (cursor : Cursor) : Option (Nat × Cursor) :=
    match cursor.rest with
    | c :: _ =>
      if c.isDigit then (increment? c).map fun n => (n, cursor.skip 1) else some (0, cursor)
    | [] => some (0, cursor)
  match cursor.rest.head?.bind chomping? with
  | some chomping => (increment (cursor.skip 1)).map fun (n, next) => (chomping, n, next)
  | none => (increment cursor).map fun (n, next) =>
    match if n = 0 then none else next.rest.head?.bind chomping? with
    | some chomping => (chomping, n, next.skip 1)
    | none => (.clip, n, next)

/-- Reads empty lines and the indentation behind them.  With no indentation given the widest found
counts.  Gives the line ends, the widest indentation, and the place behind. -/
def readEmptyLines? (indent : Nat) :
    Nat → List Char → Nat → Cursor → Option (List Char × Nat × Cursor)
  | 0, _, _, _ => none
  | steps + 1, ends, widest, cursor =>
    let spaces := (cursor.rest.takeWhile (· == ' ')).length
    let cursor := cursor.skip (if indent = 0 then spaces else min spaces (indent - cursor.column))
    let widest := max widest cursor.column
    if (indent = 0 || cursor.column < indent) && cursor.rest.head? == some '\t' then none
    else match cursor.readBreak? with
      | some (lineEnd, next) => readEmptyLines? indent steps (ends ++ lineEnd) widest next
      | none => some (ends, widest, cursor)

/-- Whether the line here begins with a blank. -/
def startsBlank (cursor : Cursor) : Bool := cursor.rest.head?.any isBlank

/-- Reads the lines of a block: its text without the line ends behind it, the last line end, and
those behind that. -/
def readLines? (isLiteral : Bool) (indent : Nat) :
    Nat → List Char → List Char → Bool → List Char → Cursor →
      Option (List Char × List Char × List Char × Cursor)
  | 0, _, _, _, _, _ => none
  | steps + 1, read, lastEnd, afterBlank, ends, cursor =>
    if cursor.column != indent || cursor.rest.isEmpty then some (read, lastEnd, ends, cursor)
    else
      let isFolded := !isLiteral && lastEnd == ['\n'] && !afterBlank && !startsBlank cursor
      let between :=
        if isFolded then if ends.isEmpty then [' '] else ends else lastEnd ++ ends
      let (content, next) := cursor.readWhile (!isBreak ·)
      let (lineEnd, next) := match next.readBreak? with
        | some (lineEnd, next) => (lineEnd, next)
        | none => ([], next)
      match readEmptyLines? indent (steps + 1) [] 0 next with
      | none => none
      | some (ends, _, next) =>
        readLines? isLiteral indent steps (read ++ between ++ content) lineEnd
          (startsBlank cursor) ends next

/-- Reads a block from behind its mark; `outer` is the indentation around it. -/
def readBlock? (isLiteral : Bool) (outer : Int) (limit : Nat) (cursor : Cursor) :
    Option (List Char × Cursor) := do
  let (chomping, increment, cursor) ← readHeader? cursor
  let cursor := cursor.skipWhile isBlank
  let cursor := if cursor.rest.head? == some '#' then cursor.skipLineRest else cursor
  if !atBreak cursor.rest then none
  let cursor := cursor.skipBreak
  let given : Nat := if increment = 0 then 0 else (max outer 0).toNat + increment
  let (ends, widest, cursor) ← readEmptyLines? given limit [] 0 cursor
  let indent := if given = 0 then max (max widest (outer + 1).toNat) 1 else given
  let (text, lastEnd, ends, cursor) ← readLines? isLiteral indent limit [] [] false ends cursor
  pure (match chomping with
    | .strip => text
    | .clip => text ++ lastEnd
    | .keep => text ++ lastEnd ++ ends, cursor)

end ClientForge.Yaml
