/-
  Texts in TOML.

  There are four forms: between double quotes, where a backslash begins an escape, or between
  single quotes, where it does not; and on one line between single marks, or over lines between
  threefold ones.  A line end right after a threefold mark does not belong to the text, and up to
  two marks before the closing ones do.  A line end in a text is a line feed, however it is
  written; a backslash at the end of a line takes away all white space up to the next character.
-/
import ClientForge.Json.Reader

namespace ClientForge.Toml

/-! ## Characters -/

/-- Whether the character is a space or a tab. -/
def isBlank (c : Char) : Bool := c == ' ' || c == '\t'

/-- Whether the character may stand on a line: no control character other than a tab. -/
def isLineChar (c : Char) : Bool := c == '\t' || (0x20 ≤ c.toNat && c.toNat != 0x7F)

/-- What follows a line end, if the text begins with one. -/
def afterBreak? : List Char → Option (List Char)
  | '\n' :: cs => some cs
  | '\r' :: '\n' :: cs => some cs
  | _ => none

/-! ## Escapes -/

/-- The character with a number of exactly so many hexadecimal digits. -/
def numbered? (count : Nat) (digits : List Char) : Option Char :=
  if digits.length == count then
    match digits.mapM Json.hexValue? with
    | some values =>
      let n := values.foldl (fun n d => 16 * n + d) 0
      if n.isValidChar then some (Char.ofNat n) else none
    | none => none
  else none

/-- The character that the text after a backslash stands for, and how many characters that
takes. -/
def escape? : List Char → Option (Char × Nat)
  | 'u' :: cs => (numbered? 4 (cs.take 4)).map fun c => (c, 5)
  | 'U' :: cs => (numbered? 8 (cs.take 8)).map fun c => (c, 9)
  | 'b' :: _ => some ('\x08', 1)
  | 't' :: _ => some ('\t', 1)
  | 'n' :: _ => some ('\n', 1)
  | 'f' :: _ => some ('\x0c', 1)
  | 'r' :: _ => some ('\r', 1)
  | '"' :: _ => some ('"', 1)
  | '\\' :: _ => some ('\\', 1)
  | _ => none

/-- How many characters of white space and line ends the text begins with. -/
def spaceLength : List Char → Nat
  | '\r' :: '\n' :: cs => spaceLength cs + 2
  | c :: cs => if isBlank c || c == '\n' then spaceLength cs + 1 else 0
  | [] => 0

/-- How many characters a backslash takes away that has only blanks after it on its line. -/
def foldLength? (cs : List Char) : Option Nat :=
  (afterBreak? (cs.dropWhile isBlank)).map fun _ => spaceLength cs

/-! ## Texts -/

/-- A text and what follows it. -/
abbrev Read := Option (List Char × List Char)

/-- A text with a character in front. -/
def Read.put (c : Char) (read : Read) : Read := read.map fun (found, rest) => (c :: found, rest)

/-- The rest of a text on one line after the opening mark, the first characters of it being part
of an escape that has been read. -/
def lineText (mark : Char) : Nat → List Char → Read
  | _, [] => none
  | skip + 1, _ :: cs => lineText mark skip cs
  | 0, c :: cs =>
    if c == mark then some ([], cs)
    else if c == '\\' && mark == '"' then
      match escape? cs with
      | some (d, length) => (lineText mark length cs).put d
      | none => none
    else if isLineChar c then (lineText mark 0 cs).put c
    else none

/-- The rest of a text over lines, the first characters of it being part of something that has
been read. -/
def blockText (mark : Char) : Nat → List Char → Read
  | _, [] => none
  | skip + 1, _ :: cs => blockText mark skip cs
  | 0, c :: cs =>
    if c == mark && cs.take 2 == [mark, mark] then
      let own := min 2 ((cs.drop 2).takeWhile (· == mark)).length
      some (List.replicate own mark, cs.drop (2 + own))
    else if c == '\\' && mark == '"' then
      match escape? cs with
      | some (d, length) => (blockText mark length cs).put d
      | none => match foldLength? cs with
        | some length => blockText mark length cs
        | none => none
    else if c == '\r' && cs.head? == some '\n' then (blockText mark 1 cs).put '\n'
    else if c == '\n' || isLineChar c then (blockText mark 0 cs).put c
    else none

/-- The text on one line that begins here. -/
def lineText? : List Char → Read
  | '"' :: cs => lineText '"' 0 cs
  | '\'' :: cs => lineText '\'' 0 cs
  | _ => none

/-- The text of any form that begins here. -/
def text? (cs : List Char) : Read :=
  let block (mark : Char) : Read :=
    let body := cs.drop 3
    blockText mark 0 ((afterBreak? body).getD body)
  if cs.take 3 == ['"', '"', '"'] then block '"'
  else if cs.take 3 == ['\'', '\'', '\''] then block '\''
  else lineText? cs

example : text? ['"', '\\', 'u', '0', '0', '4', '1', '"'] = some (['A'], []) := by decide +kernel
example : text? ("'''\n'a''''''".toList) = some (['\'', 'a', '\'', '\''], ['\'']) := by
  decide +kernel

end ClientForge.Toml
