/-
  A place in a YAML text: what is still to be read, and where that begins.

  A line ends at a carriage return, a line feed, both of them, or one of Unicode's three line
  ends.  The first four are read as a line feed; the other two are kept.
-/
namespace ClientForge.Yaml

/-! ## Characters -/

/-- Whether the character may stand in a YAML text at all. -/
def isAllowed (c : Char) : Bool :=
  let n := c.toNat
  n == 0x09 || n == 0x0A || n == 0x0D || (0x20 ≤ n && n ≤ 0x7E) || n == 0x85
    || (0xA0 ≤ n && n ≤ 0xD7FF) || (0xE000 ≤ n && n ≤ 0xFFFD) || 0x10000 ≤ n

/-- Whether the character is a space or a tab. -/
def isBlank (c : Char) : Bool := c == ' ' || c == '\t'

/-- Whether the character ends a line. -/
def isBreak (c : Char) : Bool :=
  c == '\r' || c == '\n' || c == '\x85' || c == '\u2028' || c == '\u2029'

/-- Whether the character may stand in a name. -/
def isNameChar (c : Char) : Bool := c.isAlphanum || c == '_' || c == '-'

/-- Whether one of the brackets, braces and the comma of the flow style. -/
def isFlowIndicator (c : Char) : Bool := [',', '[', ']', '\x7b', '\x7d'].contains c

/-- Whether the text ends here or goes on with a blank or a line end. -/
def atBlank : List Char → Bool
  | [] => true
  | c :: _ => isBlank c || isBreak c

/-- Whether the text ends here or goes on with a line end. -/
def atBreak : List Char → Bool
  | [] => true
  | c :: _ => isBreak c

/-! ## Places -/

/-- A place in a text. -/
structure Cursor where
  /-- What is still to be read. -/
  rest : List Char
  /-- How many characters have been read. -/
  index : Nat := 0
  line : Nat := 0
  column : Nat := 0
deriving Repr, Inhabited

namespace Cursor

/-- The place some characters further on the same line. -/
def skip (cursor : Cursor) (count : Nat) : Cursor :=
  { cursor with
    rest := cursor.rest.drop count
    index := cursor.index + count
    column := cursor.column + count }

/-- The characters up to the first that does not satisfy `p`, and the place behind them. -/
def readWhile (cursor : Cursor) (p : Char → Bool) : List Char × Cursor :=
  let read := cursor.rest.takeWhile p
  (read, cursor.skip read.length)

/-- The place behind the characters that satisfy `p`. -/
def skipWhile (cursor : Cursor) (p : Char → Bool) : Cursor := (cursor.readWhile p).2

/-- The place behind what is left of the line. -/
def skipLineRest (cursor : Cursor) : Cursor := cursor.skipWhile (!isBreak ·)

/-- The place at the start of the next line, `width` characters on. -/
def nextLine (cursor : Cursor) (width : Nat) : Cursor where
  rest := cursor.rest.drop width
  index := cursor.index + width
  line := cursor.line + 1
  column := 0

/-- The line end here, as it is read, and the place behind it. -/
def readBreak? (cursor : Cursor) : Option (List Char × Cursor) :=
  match cursor.rest with
  | '\r' :: '\n' :: _ => some (['\n'], cursor.nextLine 2)
  | c :: _ =>
    if c == '\u2028' || c == '\u2029' then some ([c], cursor.nextLine 1)
    else if isBreak c then some (['\n'], cursor.nextLine 1)
    else none
  | [] => none

/-- The place behind a line end, if there is one. -/
def skipBreak (cursor : Cursor) : Cursor :=
  match cursor.readBreak? with
  | some (_, next) => next
  | none => cursor

/-- Whether three of the character stand here at the start of a line, and then a blank. -/
def atMarker (cursor : Cursor) (c : Char) : Bool :=
  cursor.column == 0 && cursor.rest.take 3 == [c, c, c] && atBlank (cursor.rest.drop 3)

/-- Whether a mark of the start or the end of a document stands here. -/
def atDocumentMarker (cursor : Cursor) : Bool := cursor.atMarker '-' || cursor.atMarker '.'

end Cursor

end ClientForge.Yaml
