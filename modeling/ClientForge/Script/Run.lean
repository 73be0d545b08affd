/-
  Running shell scripts.

  A script runs at a place in a tree of files and may write files there.  What it writes to its
  second output is kept, and so is how it ends: with a status or by a signal that it sends to
  itself.  There are no programs besides the shell's own commands.
-/
import ClientForge.Files.FileTree
import ClientForge.Script.Basic
import ClientForge.Text.Digits

namespace ClientForge.Script

/-- How a script ends. -/
inductive Ending where
  | status (code : Nat)
  | signal (number : Nat)
deriving DecidableEq, Repr

/-- Where output goes. -/
inductive Sink where
  | nowhere
  /-- The script's second output. -/
  | errors
  | file (place : List String)
deriving DecidableEq, Repr

/-- The state of a run. -/
structure State where
  tree : FileTree
  errors : List UInt8 := []
  /-- The status of the last command. -/
  status : Nat := 0
  ending : Option Ending := none

/-- What a script is run with. -/
structure Context where
  /-- The place it runs at. -/
  here : List String
  name : String
  arguments : List String

/-! ## Words -/

/-- The number by which the script knows itself. -/
def ownNumber : String := "1"

/-- The fields of a parameter. -/
def fieldsOf (context : Context) (status : Nat) (name : Char) : List String :=
  match name with
  | '@' | '*' => context.arguments
  | '#' => [decimalText context.arguments.length]
  | '?' => [decimalText status]
  | '$' => [ownNumber]
  | '0' => [context.name]
  | c => (context.arguments[c.toNat - '0'.toNat - 1]?).toList

/-- Fields with more fields after them, the first of which continues the last. -/
def joinFields : List String → List String → List String
  | [], new => new
  | old, [] => old
  | [last], first :: rest => (last ++ first) :: rest
  | field :: old, new => field :: joinFields old new

/-- The fields that a piece adds. -/
def pieceFields (context : Context) (status : Nat) : Piece → List String
  | .text cs => [String.ofList cs]
  | .value name => fieldsOf context status name
  | .quotedValue '*' => [String.intercalate " " context.arguments]
  | .quotedValue name => fieldsOf context status name

/-- The fields of a word. -/
def expand (context : Context) (status : Nat) (word : Word) : List String :=
  word.foldl (fun fields piece => joinFields fields (pieceFields context status piece)) []

/-! ## Output -/

/-- Writes octets. -/
def State.write (state : State) (sink : Sink) (octets : List UInt8) : State :=
  match sink with
  | .nowhere => state
  | .errors => { state with errors := state.errors ++ octets }
  | .file place => match state.tree.get? place with
    | some (.file old) =>
      { state with tree := (state.tree.putFile place (old ++ octets)).getD state.tree }
    | _ => state

/-- Where the two outputs of a command go. -/
structure Outputs where
  first : Sink := .nowhere
  second : Sink := .errors

/-- The outputs with one of them going elsewhere. -/
def Outputs.set (outputs : Outputs) (output : Char) (sink : Sink) : Outputs :=
  if output == '2' then { outputs with second := sink } else { outputs with first := sink }

/-- The sink for a file, which is made or emptied. -/
def openFile (here : List String) (path : String) (append : Bool) (tree : FileTree) :
    Option (FileTree × Sink) :=
  if path == "/dev/null" then some (tree, .nowhere)
  else do
    let place ← tree.placeOfFile? here path
    let old := match tree.get? place with
      | some (.file content) => if append then content else []
      | _ => []
    pure (← tree.putFile place old, .file place)

/-- Follows the redirections of a command. -/
def redirect (context : Context) (state : State) :
    List Redirection → Outputs → FileTree → Option (Outputs × FileTree)
  | [], outputs, tree => some (outputs, tree)
  | .file output append target :: rest, outputs, tree => do
    let path := String.intercalate " " (expand context state.status target)
    let (tree, sink) ← openFile context.here path append tree
    redirect context state rest (outputs.set output sink) tree
  | .copy output target :: rest, outputs, tree =>
    match expand context state.status target with
    | ["1"] => redirect context state rest (outputs.set output outputs.first) tree
    | ["2"] => redirect context state rest (outputs.set output outputs.second) tree
    | _ => none

/-! ## Texts with escapes -/

/-- The octet of an escape of one character. -/
def octetOf? : Char → Option UInt8
  | 'a' => some 7
  | 'b' => some 8
  | 't' => some 9
  | 'n' => some 10
  | 'v' => some 11
  | 'f' => some 12
  | 'r' => some 13
  | '\\' => some 92
  | _ => none

/-- At most three octal digits. -/
def octalDigits (cs : List Char) : List Char :=
  (cs.take 3).takeWhile fun c => '0' ≤ c && c ≤ '7'

/-- The octet with a number of octal digits. -/
def octetOfDigits (digits : List Char) : UInt8 :=
  UInt8.ofNat (digits.foldl (fun n d => 8 * n + (d.toNat - '0'.toNat)) 0)

/-- The octets of what `echo` writes; the first characters may be part of an escape that has been
read. -/
def echoed : Nat → List Char → List UInt8
  | _, [] => []
  | skip + 1, _ :: cs => echoed skip cs
  | 0, '\\' :: '0' :: cs =>
    octetOfDigits (octalDigits cs) :: echoed (octalDigits cs).length cs
  | 0, '\\' :: 'c' :: _ => []
  | 0, '\\' :: c :: cs => match octetOf? c with
    | some octet => octet :: echoed 0 cs
    | none => 92 :: String.utf8EncodeChar c ++ echoed 0 cs
  | 0, c :: cs => String.utf8EncodeChar c ++ echoed 0 cs

/-- The octets of what `printf` writes for a format, and the arguments left. -/
def formatted : Nat → List Char → List String → List UInt8 × List String
  | _, [], arguments => ([], arguments)
  | skip + 1, _ :: cs, arguments => formatted skip cs arguments
  | 0, '\\' :: c :: cs, arguments =>
    let digits := octalDigits (c :: cs)
    if digits.isEmpty then
      let octets := match octetOf? c with
        | some octet => [octet]
        | none => if c == '"' then [34] else 92 :: String.utf8EncodeChar c
      let (rest, left) := formatted 0 cs arguments
      (octets ++ rest, left)
    else
      let (rest, left) := formatted (digits.length - 1) cs arguments
      (octetOfDigits digits :: rest, left)
  | 0, '%' :: '%' :: cs, arguments =>
    let (rest, left) := formatted 0 cs arguments
    (37 :: rest, left)
  | 0, '%' :: c :: cs, arguments =>
    let given := arguments.head?.getD (if c == 'd' then "0" else "")
    let (rest, left) := formatted 0 cs arguments.tail
    (Text.utf8 given.toList ++ rest, left)
  | 0, c :: cs, arguments =>
    let (rest, left) := formatted 0 cs arguments
    (String.utf8EncodeChar c ++ rest, left)

/-- The octets of what `printf` writes; the format is used again while it takes arguments. -/
def printed (format : List Char) : Nat → List String → List UInt8
  | 0, _ => []
  | bound + 1, arguments =>
    let (octets, left) := formatted 0 format arguments
    if left.isEmpty || left.length == arguments.length then octets
    else octets ++ printed format bound left

/-! ## Commands -/

/-- The signals by name. -/
def signals : List (String × Nat) :=
  [("HUP", 1), ("INT", 2), ("KILL", 9), ("USR1", 10), ("USR2", 12), ("PIPE", 13), ("ALRM", 14),
    ("TERM", 15)]

/-- The signal that a text names by number or name. -/
def signal? (text : String) : Option Nat :=
  signals.findSome? fun (name, number) =>
    if text == name || text == decimalText number then some number else none

/-- The signal that the arguments of `kill` send to the script itself. -/
def sent? : List String → Option Nat
  | ["-s", name, target] => if target == ownNumber then signal? name else none
  | [mark, target] =>
    if target == ownNumber then
      match mark.toList with
      | '-' :: name => signal? (String.ofList name)
      | _ => none
    else none
  | [target] => if target == ownNumber then signal? "TERM" else none
  | _ => none

/-- The state after a command with a status. -/
def State.done (state : State) (status : Nat) : State := { state with status := status }

/-- Ends a run. -/
def State.finish (state : State) (ending : Ending) : State := { state with ending := some ending }

/-- The state after `exit`. -/
def exitWith (state : State) : List String → State
  | [] => state.finish (.status state.status)
  | code :: _ => match code.toNat? with
    | some n => state.finish (.status (n % 256))
    | none => state.finish (.status 2)

/-- Runs a command given by its fields. -/
def invoke (context : Context) (outputs : Outputs) (state : State) : List String → State
  | [] => state.done 0
  | ":" :: _ => state.done 0
  | "true" :: _ => state.done 0
  | "false" :: _ => state.done 1
  | "exit" :: arguments => exitWith state arguments
  | "kill" :: arguments => match sent? arguments with
    | some number => state.finish (.signal number)
    | none => state.done 1
  | "echo" :: "-n" :: words =>
    (state.write outputs.first (echoed 0 (String.intercalate " " words).toList)).done 0
  | "echo" :: words =>
    (state.write outputs.first (echoed 0 (String.intercalate " " words ++ "\n").toList)).done 0
  | "printf" :: format :: arguments =>
    (state.write outputs.first (printed format.toList (arguments.length + 1) arguments)).done 0
  | "printf" :: [] => state.done 2
  | name :: _ =>
    let message := context.name ++ ": 1: " ++ name ++ ": not found\n"
    (state.write outputs.second (Text.utf8 message.toList)).done 127

/-- Whether a command with a condition runs after a status. -/
def Condition.holds : Condition → Nat → Bool
  | always, _ => true
  | succeeded, status => status == 0
  | failed, status => status != 0

/-- Runs one command. -/
def State.step (context : Context) (state : State) (command : Command) : State :=
  if state.ending.isSome || !command.condition.holds state.status then state
  else
    match redirect context state command.redirections {} state.tree with
    | none => state.done 2
    | some (outputs, tree) =>
      invoke context outputs { state with tree := tree }
        (command.words.flatMap (expand context state.status))

/-- Runs a script on a tree: the tree afterwards, what is in the second output, and how it ends. -/
def run (script : String) (context : Context) (tree : FileTree) :
    FileTree × List UInt8 × Ending :=
  match commands? script with
  | none => (tree, [], .status 2)
  | some commands =>
    let last := commands.foldl (State.step context) { tree := tree }
    (last.tree, last.errors, last.ending.getD (.status last.status))

end ClientForge.Script
