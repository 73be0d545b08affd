/-
  Reading JSON.

  The text is first taken apart into tokens by a machine that sees one character at a time, then
  the tokens are put together by a second machine with the open collections on a stack.  Both are
  structural recursion, so reading ends for every text however deep it nests.  The grammar is
  strict: nothing may stand before or after the value but white space, and no comma may be left
  over.
-/
import ClientForge.Json.Number

namespace ClientForge.Json

/-! ## Tokens -/

/-- A token; a text that is not Unicode has no content. -/
inductive Token where
  | openList
  | closeList
  | openTable
  | closeTable
  | comma
  | colon
  | text (content : Option String)
  | scalar (s : Scalar)
deriving Repr

/-- A character of a text, or a 16-bit unit given by its number. -/
inductive TextUnit where
  | char (c : Char)
  | unit (n : Nat)
deriving Repr

/-- The characters of a row of units: a high surrogate and the low one after it are one character,
and any other surrogate is no character at all. -/
def textOfUnits? : List TextUnit → Option (List Char)
  | [] => some []
  | .char c :: rest => (textOfUnits? rest).map (c :: ·)
  | .unit high :: .unit low :: rest =>
    if 0xD800 ≤ high && high < 0xDC00 then
      if 0xDC00 ≤ low && low < 0xE000 then
        (textOfUnits? rest).map
          (Char.ofNat (0x10000 + (high - 0xD800) * 0x400 + (low - 0xDC00)) :: ·)
      else none
    else if 0xDC00 ≤ high && high < 0xE000 then none
    else (textOfUnits? (.unit low :: rest)).map (Char.ofNat high :: ·)
  | .unit n :: rest =>
    if 0xD800 ≤ n && n < 0xE000 then none else (textOfUnits? rest).map (Char.ofNat n :: ·)

/-- Where the first machine stands; what is gathered is held in reverse. -/
inductive Lexing where
  | idle
  | word (read : List Char)
  | number (read : List Char)
  | text (read : List TextUnit)
  /-- After a backslash. -/
  | escape (read : List TextUnit)
  /-- Inside a numbered escape, with the digits still owed and the number so far. -/
  | hex (read : List TextUnit) (owed value : Nat)

/-- Whether the character is JSON white space. -/
def isSpace (c : Char) : Bool := c == ' ' || c == '\n' || c == '\t' || c == '\r'

/-- Whether the character can belong to a number. -/
def isNumberChar (c : Char) : Bool :=
  c.isDigit || c == '-' || c == '+' || c == '.' || c == 'e' || c == 'E'

/-- The scalar of a bare word. -/
def word? (cs : List Char) : Option Scalar :=
  match String.ofList cs with
  | "null" => some .null
  | "true" => some (.bool true)
  | "false" => some (.bool false)
  | _ => none

/-- The value of a hexadecimal digit. -/
def hexValue? (c : Char) : Option Nat :=
  if c.isDigit then some (c.toNat - '0'.toNat)
  else if 'a' ≤ c && c ≤ 'f' then some (c.toNat - 'a'.toNat + 10)
  else if 'A' ≤ c && c ≤ 'F' then some (c.toNat - 'A'.toNat + 10)
  else none

/-- The character that a short escape stands for. -/
def shortEscape? (c : Char) : Option Char :=
  match c with
  | '"' => some '"'
  | '\\' => some '\\'
  | '/' => some '/'
  | 'b' => some '\x08'
  | 'f' => some '\x0c'
  | 'n' => some '\n'
  | 'r' => some '\r'
  | 't' => some '\t'
  | _ => none

/-- A character between tokens. -/
def beginToken (c : Char) : Option (List Token × Lexing) :=
  if isSpace c then some ([], .idle)
  else match c with
    | '[' => some ([.openList], .idle)
    | ']' => some ([.closeList], .idle)
    | '\x7b' => some ([.openTable], .idle)
    | '\x7d' => some ([.closeTable], .idle)
    | ',' => some ([.comma], .idle)
    | ':' => some ([.colon], .idle)
    | '"' => some ([], .text [])
    | c =>
      if c == '-' || c.isDigit then some ([], .number [c])
      else if c.isAlpha then some ([], .word [c])
      else none

/-- Ends the token that is being read. -/
def endToken : Lexing → Option (List Token)
  | .idle => some []
  | .word read => (word? read.reverse).map fun s => [.scalar s]
  | .number read => (number? read.reverse).map fun s => [.scalar s]
  | _ => none

/-- One step of the first machine. -/
def stepChar (state : Lexing) (c : Char) : Option (List Token × Lexing) :=
  match state with
  | .idle => beginToken c
  | .word read =>
    if c.isAlpha then some ([], .word (c :: read))
    else do
      let done ← endToken state
      let (new, next) ← beginToken c
      pure (done ++ new, next)
  | .number read =>
    if isNumberChar c then some ([], .number (c :: read))
    else do
      let done ← endToken state
      let (new, next) ← beginToken c
      pure (done ++ new, next)
  | .text read =>
    if c == '"' then
      some ([.text ((textOfUnits? read.reverse).map String.ofList)], .idle)
    else if c == '\\' then some ([], .escape read)
    else if c.toNat < 0x20 then none
    else some ([], .text (.char c :: read))
  | .escape read =>
    if c == 'u' then some ([], .hex read 4 0)
    else (shortEscape? c).map fun d => ([], .text (.char d :: read))
  | .hex read owed value =>
    (hexValue? c).map fun d =>
      let value := 16 * value + d
      ([], if owed ≤ 1 then .text (.unit value :: read) else .hex read (owed - 1) value)

/-- The tokens of the remaining characters. -/
def tokensFrom (state : Lexing) : List Char → Option (List Token)
  | [] => endToken state
  | c :: cs => do
    let (done, next) ← stepChar state c
    let rest ← tokensFrom next cs
    pure (done ++ rest)

/-! ## Putting the tokens together -/

/-- An open collection with its members in reverse. -/
inductive Frame where
  | list (items : List Node)
  | table (entries : List (Node × Node))
  /-- A table whose last key still waits for its value. -/
  | entry (entries : List (Node × Node)) (key : Node)

/-- What may come next. -/
inductive Expecting where
  | value
  | valueOrClose
  | key
  | keyOrClose
  | colon
  | separator
  /-- Nothing; the value is complete. -/
  | done (root : Node)

/-- The second machine: the open collections, the innermost first. -/
structure Building where
  frames : List Frame
  expecting : Expecting

/-- Puts a finished node where it belongs. -/
def Building.place (frames : List Frame) (node : Node) : Option Building :=
  match frames with
  | [] => some ⟨[], .done node⟩
  | .list items :: rest => some ⟨.list (node :: items) :: rest, .separator⟩
  | .entry entries key :: rest => some ⟨.table ((key, node) :: entries) :: rest, .separator⟩
  | .table _ :: _ => none

/-- Closes the innermost collection if the token closes one of its kind. -/
def Building.close (frames : List Frame) (token : Token) : Option Building :=
  match frames, token with
  | .list items :: rest, .closeList => place rest (.list .typed items.reverse)
  | .table entries :: rest, .closeTable => place rest (.table .typed entries.reverse)
  | _, _ => none

/-- A value begins. -/
def Building.begin (frames : List Frame) (token : Token) : Option Building :=
  match token with
  | .openList => some ⟨.list [] :: frames, .valueOrClose⟩
  | .openTable => some ⟨.table [] :: frames, .keyOrClose⟩
  | .text (some s) => place frames (.scalar (.text s))
  | .text none => place frames (.scalar .unreadable)
  | .scalar s => place frames (.scalar s)
  | _ => none

/-- A key of the innermost table. -/
def Building.key (frames : List Frame) (token : Token) : Option Building :=
  match frames, token with
  | .table entries :: rest, .text (some s) =>
    some ⟨.entry entries (.scalar (.text s)) :: rest, .colon⟩
  | .table entries :: rest, .text none =>
    some ⟨.entry entries (.scalar .unreadable) :: rest, .colon⟩
  | _, _ => none

/-- One step of the second machine. -/
def Building.step (b : Building) (token : Token) : Option Building :=
  match b.expecting, token with
  | .value, token => begin b.frames token
  | .valueOrClose, .closeList => close b.frames .closeList
  | .valueOrClose, token => begin b.frames token
  | .key, token => key b.frames token
  | .keyOrClose, .closeTable => close b.frames .closeTable
  | .keyOrClose, token => key b.frames token
  | .colon, .colon => some ⟨b.frames, .value⟩
  | .separator, .comma =>
    match b.frames with
    | .list _ :: _ => some ⟨b.frames, .value⟩
    | .table _ :: _ => some ⟨b.frames, .key⟩
    | _ => none
  | .separator, token => close b.frames token
  | _, _ => none

/-- The tree that the tokens describe. -/
def nodeOfTokens? (tokens : List Token) : Option Node := do
  let last ← tokens.foldlM Building.step ⟨[], .value⟩
  match last.expecting with
  | .done root => some root
  | _ => none

/-- How deep the collections of a JSON text may nest where they are looked at. -/
def maxDepth : Nat := 127

/-- Reads a JSON text. -/
def read? (text : String) : Option Source := do
  let tokens ← tokensFrom .idle text.toList
  let root ← nodeOfTokens? tokens
  pure ⟨root, [], maxDepth⟩

example : (read? "[1, \x7b\"a\": null\x7d]").isSome = true := by decide +kernel
example : (read? "[1,]").isSome = false := by decide +kernel

end ClientForge.Json
