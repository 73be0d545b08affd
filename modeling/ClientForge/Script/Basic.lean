/-
  Shell scripts: their words and commands.

  A script is a row of commands, each run after the one before it: always, only where that one
  succeeded, or only where it failed.  A command is words and redirections.  A word is put
  together from text and the values of parameters; quotes decide which characters are text.
-/
namespace ClientForge.Script

/-- A piece of a word. -/
inductive Piece where
  /-- Text; a word with text in it is there even if it is empty. -/
  | text (cs : List Char)
  /-- The value of a parameter. -/
  | value (name : Char)
  /-- The value of a parameter between double quotes. -/
  | quotedValue (name : Char)
deriving DecidableEq, Repr

/-- A word. -/
abbrev Word := List Piece

/-- Where the output with a number goes. -/
inductive Redirection where
  /-- To a file, which is emptied first unless `append` is set. -/
  | file (output : Char) (append : Bool) (target : Word)
  /-- To where the output with another number goes. -/
  | copy (output : Char) (target : Word)
deriving DecidableEq, Repr

/-- When a command runs. -/
inductive Condition where
  | always
  /-- After success. -/
  | succeeded
  /-- After failure. -/
  | failed
deriving DecidableEq, Repr, Inhabited

/-- A command. -/
structure Command where
  condition : Condition := .always
  words : List Word := []
  redirections : List Redirection := []
deriving DecidableEq, Repr, Inhabited

/-! ## Tokens -/

/-- A token of a script. -/
inductive Token where
  | word (w : Word)
  | toFile (output : Char) (append : Bool)
  | toOutput (output : Char)
  /-- The end of a command, with the condition of the next. -/
  | next (condition : Condition)
deriving DecidableEq, Repr

/-- The pieces of the open word with a character more, in reverse. -/
def addChar (c : Char) : Option Word → Option Word
  | some (.text cs :: rest) => some (.text (cs ++ [c]) :: rest)
  | open? => some (.text [c] :: open?.getD [])

/-- The pieces of the open word with a piece more, in reverse. -/
def addPiece (piece : Piece) (open? : Option Word) : Option Word :=
  some (piece :: open?.getD [])

/-- The open word as a token. -/
def endWord (open? : Option Word) : List Token :=
  open?.toList.map fun pieces => .word pieces.reverse

/-- Whether the character names a parameter. -/
def isParameter (c : Char) : Bool := c.isDigit || ['@', '*', '#', '?', '$'].contains c

/-- Whether a dollar before the character asks for something that there is not here. -/
def beginsName (c : Char) : Bool := c.isAlpha || ['_', '\x7b', '('].contains c

/-- The number of the output that a redirection concerns, and the tokens before it. -/
def outputOf (open? : Option Word) : Char × List Token :=
  match open? with
  | some [.text [c]] => if c.isDigit then (c, []) else ('1', endWord open?)
  | _ => ('1', endWord open?)

mutual

/-- The tokens of a script outside of quotes, with the open word in reverse. -/
def plainTokens (open? : Option Word) : List Char → Option (List Token)
  | [] => some (endWord open?)
  | '\\' :: '\n' :: cs => plainTokens open? cs
  | '\\' :: c :: cs => plainTokens (addChar c open?) cs
  | '$' :: c :: cs =>
    if isParameter c then plainTokens (addPiece (.value c) open?) cs
    else if beginsName c then none
    else plainTokens (addChar '$' open?) (c :: cs)
  | '\x27' :: cs => literalTokens (addPiece (.text []) open?) cs
  | '"' :: cs => quotedTokens (addPiece (.text []) open?) cs
  | '&' :: '&' :: cs => (plainTokens none cs).map (endWord open? ++ .next .succeeded :: ·)
  | '|' :: '|' :: cs => (plainTokens none cs).map (endWord open? ++ .next .failed :: ·)
  | '>' :: '>' :: cs =>
    let (output, before) := outputOf open?
    (plainTokens none cs).map (before ++ .toFile output true :: ·)
  | '>' :: '&' :: cs =>
    let (output, before) := outputOf open?
    (plainTokens none cs).map (before ++ .toOutput output :: ·)
  | '>' :: cs =>
    let (output, before) := outputOf open?
    (plainTokens none cs).map (before ++ .toFile output false :: ·)
  | c :: cs =>
    if c == ' ' || c == '\t' then (plainTokens none cs).map (endWord open? ++ ·)
    else if c == '\n' || c == ';' then
      (plainTokens none cs).map (endWord open? ++ .next .always :: ·)
    else if c == '#' && open?.isNone then commentTokens cs
    else if ['&', '|', '<', '(', ')', '\x60'].contains c then none
    else plainTokens (addChar c open?) cs

/-- The tokens of a script between single quotes. -/
def literalTokens (open? : Option Word) : List Char → Option (List Token)
  | [] => none
  | '\x27' :: cs => plainTokens open? cs
  | c :: cs => literalTokens (addChar c open?) cs

/-- The tokens of a script between double quotes. -/
def quotedTokens (open? : Option Word) : List Char → Option (List Token)
  | [] => none
  | '"' :: cs => plainTokens open? cs
  | '\\' :: '\n' :: cs => quotedTokens open? cs
  | '\\' :: c :: cs =>
    if ['$', '\x60', '"', '\\'].contains c then quotedTokens (addChar c open?) cs
    else quotedTokens (addChar c (addChar '\\' open?)) cs
  | '$' :: c :: cs =>
    if isParameter c then quotedTokens (addPiece (.quotedValue c) open?) cs
    else if beginsName c then none
    else quotedTokens (addChar '$' open?) (c :: cs)
  | c :: cs => quotedTokens (addChar c open?) cs

/-- The tokens of a script in a comment. -/
def commentTokens : List Char → Option (List Token)
  | [] => some []
  | '\n' :: cs => (plainTokens none cs).map (.next .always :: ·)
  | _ :: cs => commentTokens cs

end

/-! ## Commands -/

/-- A command without words and redirections is none. -/
def Command.isEmpty (command : Command) : Bool :=
  command.words.isEmpty && command.redirections.isEmpty

/-- The commands of tokens, `open` being the one that is being read. -/
def commandsFrom (started : Command) : List Token → Option (List Command)
  | [] => some (if started.isEmpty then [] else [started])
  | .toFile output append :: .word target :: rest =>
    commandsFrom { started with
      redirections := started.redirections ++ [.file output append target] } rest
  | .toOutput output :: .word target :: rest =>
    commandsFrom { started with
      redirections := started.redirections ++ [.copy output target] } rest
  | .word w :: rest => commandsFrom { started with words := started.words ++ [w] } rest
  | .next condition :: rest =>
    if started.isEmpty then
      if condition == .always then commandsFrom started rest else none
    else (commandsFrom { condition } rest).map (started :: ·)
  | _ => none

/-- The commands of a script. -/
def commands? (script : String) : Option (List Command) :=
  (plainTokens none script.toList).bind (commandsFrom {})

example : (commands? "echo a 'b c' >&2; exit 3").map List.length = some 2 := by decide +kernel
example : commands? "echo 'a" = none := by decide +kernel

end ClientForge.Script
