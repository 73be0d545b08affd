/-
  Templates: text with places where values go.

  Between double braces stands the name of a variable, possibly with filters behind it; a comment
  stands between a brace and a hash.  A hyphen just inside either end takes the white space on
  that side away.  Values go in as they are.  Rendering fails for a variable or a filter that
  there is not, for anything left open, and for every tag of another kind.
-/
import ClientForge.Text.Blank

namespace ClientForge.Template

/-! ## Cutting a template into pieces -/

/-- A piece of a template. -/
inductive Piece where
  | text (cs : List Char)
  /-- What stands between double braces. -/
  | insertion (inside : List Char)
  /-- What stands inside a comment. -/
  | comment (inside : List Char)
deriving Repr

/-- Where the cut stands; what is gathered is held in reverse. -/
inductive Cutting where
  | text (read : List Char)
  /-- Between double braces, possibly inside a quoted text. -/
  | insertion (quote : Option Char) (read : List Char)
  | comment (read : List Char)

/-- Whether the character opens and closes a quoted text. -/
def isQuote (c : Char) : Bool := c == '"' || c == '\x27' || c == '\x60'

/-- The pieces of the remaining characters, nothing if one is left open. -/
def piecesFrom : Cutting → List Char → Option (List Piece)
  | .text read, [] => some [.text read.reverse]
  | _, [] => none
  | .text read, '\x7b' :: '\x7b' :: cs =>
    (piecesFrom (.insertion none []) cs).map (.text read.reverse :: ·)
  | .text read, '\x7b' :: '#' :: cs =>
    (piecesFrom (.comment []) cs).map (.text read.reverse :: ·)
  | .text _, '\x7b' :: '%' :: _ => none
  | .text read, c :: cs => piecesFrom (.text (c :: read)) cs
  | .insertion none read, '\x7d' :: '\x7d' :: cs =>
    (piecesFrom (.text []) cs).map (.insertion read.reverse :: ·)
  | .insertion none read, c :: cs =>
    piecesFrom (.insertion (if isQuote c then some c else none) (c :: read)) cs
  | .insertion (some quote) read, c :: cs =>
    piecesFrom (.insertion (if c == quote then none else some quote) (c :: read)) cs
  | .comment read, '#' :: '\x7d' :: cs =>
    (piecesFrom (.text []) cs).map (.comment read.reverse :: ·)
  | .comment read, c :: cs => piecesFrom (.comment (c :: read)) cs

/-- What stands inside a tag, and whether it takes the white space before and behind it. -/
def hyphens (inside : List Char) : List Char × Bool × Bool :=
  let (inside, before) := match inside with
    | '-' :: rest => (rest, true)
    | _ => (inside, false)
  match Text.dropEnd? ['-'] inside with
  | some kept => (kept, before, true)
  | none => (inside, before, false)

/-- The pieces without the white space that the tags next to them take; `behind` tells whether the
piece before takes it. -/
def trimmed (behind : Bool) : List Piece → List Piece
  | [] => []
  | .text cs :: rest =>
    let cs := if behind then Text.trimStart cs else cs
    let before := match rest with
      | .insertion inside :: _ | .comment inside :: _ => (hyphens inside).2.1
      | _ => false
    .text (if before then Text.trimEnd cs else cs) :: trimmed false rest
  | .insertion inside :: rest =>
    let (inside, _, after) := hyphens inside
    .insertion inside :: trimmed after rest
  | .comment inside :: rest => .comment inside :: trimmed (hyphens inside).2.2 rest

/-! ## Words of an insertion -/

/-- A word between double braces. -/
inductive Word where
  | name (text : String)
  | quoted (text : String)
  | mark (c : Char)
deriving DecidableEq, Repr

/-- Where the reading of words stands. -/
inductive Reading where
  | between
  | name (read : List Char)
  | quoted (quote : Char) (read : List Char)

/-- Whether the character may begin a name. -/
def beginsName (c : Char) : Bool := c.isAlpha || c == '_'

/-- Whether the character may stand inside a name. -/
def continuesName (c : Char) : Bool := c.isAlphanum || c == '_'

/-- Whether the character separates words. -/
def isSpace (c : Char) : Bool := c == ' ' || c == '\t' || c == '\r' || c == '\n'

/-- A character between words. -/
def beginWord (c : Char) : Option (List Word × Reading) :=
  if isSpace c then some ([], .between)
  else if isQuote c then some ([], .quoted c [])
  else if beginsName c then some ([], .name [c])
  else if ['|', '(', ')', '=', ','].contains c then some ([.mark c], .between)
  else none

/-- The words of the remaining characters. -/
def wordsFrom : Reading → List Char → Option (List Word)
  | .between, [] => some []
  | .name read, [] => some [.name (String.ofList read.reverse)]
  | .quoted .., [] => none
  | .between, c :: cs => do
    let (words, next) ← beginWord c
    pure (words ++ (← wordsFrom next cs))
  | .name read, c :: cs =>
    if continuesName c then wordsFrom (.name (c :: read)) cs
    else do
      let (words, next) ← beginWord c
      pure (.name (String.ofList read.reverse) :: words ++ (← wordsFrom next cs))
  | .quoted quote read, c :: cs =>
    if c == quote then (wordsFrom .between cs).map (.quoted (String.ofList read.reverse) :: ·)
    else wordsFrom (.quoted quote (c :: read)) cs

/-! ## Values -/

/-- The variables of a template by name. -/
abbrev Context := List (String × String)

/-- The value of a word that stands for one. -/
def valueOf? (context : Context) : Word → Option String
  | .name name => context.lookup name
  | .quoted text => some text
  | .mark _ => none

/-- The arguments of a filter up to its closing parenthesis, and the words behind it. -/
def arguments? (context : Context) : List Word → Option (List (String × String) × List Word)
  | .mark ')' :: rest => some ([], rest)
  | .name key :: .mark '=' :: value :: .mark ',' :: rest => do
    let value ← valueOf? context value
    let (others, rest) ← arguments? context rest
    pure ((key, value) :: others, rest)
  | .name key :: .mark '=' :: value :: .mark ')' :: rest => do
    pure ([(key, ← valueOf? context value)], rest)
  | _ => none

/-- The value that a filter makes of another.  There is one filter, which replaces a text. -/
def filtered? (filter : String) (arguments : List (String × String)) (value : String) :
    Option String := do
  if filter != "replace" then none
  let pattern ← arguments.lookup "from"
  let new ← arguments.lookup "to"
  pure (String.ofList (Text.replaceAll pattern.toList new.toList value.toList))

/-- The value after the filters that follow; `steps` is at least the number of words. -/
def applyFilters? (context : Context) : Nat → String → List Word → Option String
  | _, value, [] => some value
  | steps + 1, value, .mark '|' :: .name filter :: .mark '(' :: rest => do
    let (arguments, rest) ← arguments? context rest
    applyFilters? context steps (← filtered? filter arguments value) rest
  | steps + 1, value, .mark '|' :: .name filter :: rest => do
    applyFilters? context steps (← filtered? filter [] value) rest
  | _, _, _ => none

/-- The value of an insertion. -/
def insertion? (context : Context) (inside : List Char) : Option String := do
  match ← wordsFrom .between inside with
  | first :: rest => applyFilters? context rest.length (← valueOf? context first) rest
  | [] => none

/-- The text of a piece. -/
def pieceText? (context : Context) : Piece → Option String
  | .text cs => some (String.ofList cs)
  | .insertion inside => insertion? context inside
  | .comment _ => some ""

/-- The text of a template with its values put in. -/
def render? (context : Context) (template : String) : Option String := do
  let pieces ← piecesFrom (.text []) template.toList
  let texts ← (trimmed false pieces).mapM (pieceText? context)
  pure (String.join texts)

example : render? [("a", "x-y")] "\x7b# c #\x7d<\x7b\x7b a | replace(from=\"-\", to=\"_\") \x7d\x7d>"
    = some "<x_y>" := by decide +kernel
example : render? [] "\x7b\x7b a \x7d\x7d" = none := by decide +kernel

end ClientForge.Template
