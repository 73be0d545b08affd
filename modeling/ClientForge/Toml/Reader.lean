/-
  Reading TOML.

  Values nest, and each level of arrays and braces takes one from a bound; within a level the
  items follow each other, and each takes at least one character.  Lines end at line ends, and
  only arrays may go on over several of them.
-/
import ClientForge.Toml.Scalar
import ClientForge.Toml.Text

namespace ClientForge.Toml

/-! ## White space -/

/-- The text without the blanks at its start. -/
def skipBlanks (cs : List Char) : List Char := cs.dropWhile isBlank

/-- The text without the blanks, line ends and comments at its start. -/
def skipSpace (inComment : Bool) : List Char → List Char
  | [] => []
  | '\n' :: cs => skipSpace false cs
  | '\r' :: '\n' :: cs => skipSpace false cs
  | c :: cs =>
    if inComment then if isLineChar c then skipSpace true cs else c :: cs
    else if c == '#' then skipSpace true cs
    else if isBlank c then skipSpace false cs
    else c :: cs

/-- What follows the line, if nothing but a comment is left on it. -/
def afterLine? (cs : List Char) : Option (List Char) :=
  let cs := skipBlanks cs
  let cs := if cs.head? == some '#' then cs.dropWhile isLineChar else cs
  if cs.isEmpty then some [] else afterBreak? cs

/-! ## Keys -/

/-- Whether the character may stand in a key without quotes. -/
def isKeyChar (c : Char) : Bool := c.isAlphanum || c == '_' || c == '-'

/-- One name of a key, and what follows it. -/
def name? (cs : List Char) : Option (String × List Char) :=
  match lineText? cs with
  | some (cs, rest) => some (String.ofList cs, rest)
  | none =>
    let bare := cs.takeWhile isKeyChar
    if bare.isEmpty then none else some (String.ofList bare, cs.dropWhile isKeyChar)

/-- How many names a key may have, and how deep values may nest. -/
def maxDepth : Nat := 79

/-- A key of at most so many names, and what follows it. -/
def key? : Nat → List Char → Option (Key × List Char)
  | 0, _ => none
  | bound + 1, cs => do
    let (name, rest) ← name? (skipBlanks cs)
    match skipBlanks rest with
    | '.' :: rest => do
      let (key, rest) ← key? bound rest
      pure (⟨name :: key.path, key.name⟩, rest)
    | rest => pure (⟨[], name⟩, rest)

/-! ## Values -/

/-- A reader of values: the value that begins here, and what follows it. -/
abbrev Reader := List Char → Option (Toml × List Char)

/-- A key and its value. -/
def pair? (value : Reader) (cs : List Char) : Option ((Key × Toml) × List Char) := do
  match ← key? maxDepth cs with
  | (key, '=' :: rest) => do
    let (value, rest) ← value (skipBlanks rest)
    pure ((key, value), rest)
  | _ => none

/-- The items up to the closing bracket; a comma may follow the last. -/
def items? (value : Reader) : Nat → List Char → Option (List Toml × List Char)
  | 0, _ => none
  | bound + 1, cs =>
    match skipSpace false cs with
    | ']' :: rest => some ([], rest)
    | cs => do
      let (item, rest) ← value cs
      match skipSpace false rest with
      | ',' :: rest => do
        let (items, rest) ← items? value bound rest
        pure (item :: items, rest)
      | ']' :: rest => some ([item], rest)
      | _ => none

/-- The entries up to the closing brace; no comma may follow the last. -/
def pairs? (value : Reader) : Nat → List Char → Option (List (Key × Toml) × List Char)
  | 0, _ => none
  | bound + 1, cs => do
    let (entry, rest) ← pair? value cs
    match skipBlanks rest with
    | ',' :: rest => do
      let (entries, rest) ← pairs? value bound rest
      pure (entry :: entries, rest)
    | '\x7d' :: rest => some ([entry], rest)
    | _ => none

/-- A value that is neither an array nor between braces. -/
def simple? (cs : List Char) : Option (Toml × List Char) :=
  match text? cs with
  | some (cs, rest) => some (.text (String.ofList cs), rest)
  | none =>
    let (first, rest) := word cs
    (ofWord? first).map fun value => (value, rest)

/-- The value that begins here, with at most so many levels of nesting. -/
def value? : Nat → Reader
  | 0, '[' :: _ => none
  | 0, '\x7b' :: _ => none
  | depth + 1, '[' :: cs =>
    (items? (value? depth) (cs.length + 1) cs).map fun (items, rest) => (.array items, rest)
  | depth + 1, '\x7b' :: cs =>
    match skipBlanks cs with
    | '\x7d' :: rest => some (.table .closed [], rest)
    | cs => do
      let (entries, rest) ← pairs? (value? depth) (cs.length + 1) cs
      (closedTable? entries).map fun table => (table, rest)
  | _, cs => simple? cs

/-! ## Lines -/

/-- The line that begins here, and what follows what it says. -/
def line? (cs : List Char) : Option (Line × List Char) :=
  match cs with
  | '[' :: '[' :: cs => do
    match ← key? maxDepth cs with
    | (key, ']' :: ']' :: rest) => pure (.listHeader key, rest)
    | _ => none
  | '[' :: cs => do
    match ← key? maxDepth cs with
    | (key, ']' :: rest) => pure (.header key, rest)
    | _ => none
  | cs => do
    let ((key, value), rest) ← pair? (value? maxDepth) cs
    pure (.entry key value, rest)

/-- The lines of a text of at most so many. -/
def lines? : Nat → List Char → Option (List Line)
  | 0, _ => none
  | bound + 1, cs =>
    let cs := skipSpace false cs
    if cs.isEmpty then some []
    else do
      let (line, rest) ← line? cs
      let rest ← afterLine? rest
      let lines ← lines? bound rest
      pure (line :: lines)

/-- Reads a TOML text; a byte order mark at its start is passed over. -/
def read? (text : String) : Option Entries :=
  let cs := match text.toList with
    | '\ufeff' :: cs => cs
    | cs => cs
  (lines? (cs.length + 1) cs).bind ofLines?

example : (read? "a.b = 1 # one\na.c = [1,\n 2,]\n[[t]]\nx = \x7by = 'z'\x7d").isSome = true := by
  decide +kernel
example : (read? "a = 1\na = 2").isNone = true := by decide +kernel
example : (read? "a = []\n[[a]]").isNone = true := by decide +kernel

end ClientForge.Toml
