/-
  Trying out what was written.

  A program that builds and tests the written crate is run in its directory; here the program is
  a shell script.  Without a program or a directory nothing runs.  A program that runs has to end
  with status zero; what it wrote about its failure is part of the answer.  Nothing that it wrote
  to files is taken back.
-/
import ClientForge.Script.Run

namespace ClientForge

/-- Why a trial fails. -/
inductive Verification.Failure where
  /-- The program cannot be started. -/
  | spawn
  /-- The program fails, having written `errors`. -/
  | failed (ending : Script.Ending) (errors : List UInt8)
deriving DecidableEq, Repr

namespace Verification

/-- How a program ended, in words. -/
def endingText : Script.Ending → String
  | .status code => "exit status: " ++ decimalText code
  | .signal number =>
    let name := (Script.signals.find? fun s => s.2 == number).map Prod.fst
    "signal: " ++ decimalText number ++ " (SIG" ++ name.getD "" ++ ")"

/-- The wording of a failure, as far as it does not come from elsewhere. -/
def Failure.message? : Failure → Option String
  | spawn => none
  | failed ending errors =>
    some ("verifier exited with " ++ endingText ending ++ ":\n"
      ++ String.ofList (Text.ofUtf8Lossy errors))

/-- The name by which the program is called. -/
def programName : String := "cargo"

/-- What the program is called with. -/
def arguments : List String := ["test", "--quiet"]

/-- The place of the directory that a path names. -/
def directory? (tree : FileTree) (here : List String) (path : String) : Option (List String) :=
  (tree.follow (Path.parts path) here).filter tree.isDirectory

/-- Runs the program in the directory that a path names: the tree afterwards, and the failure if
there was one. -/
def run (program : Option String) (here : List String) (path : String) (tree : FileTree) :
    FileTree × Except Failure Unit :=
  match program, directory? tree here path with
  | some script, some place =>
    let (after, errors, ending) := Script.run script ⟨place, programName, arguments⟩ tree
    (after, if ending = .status 0 then .ok () else .error (.failed ending errors))
  | _, _ => (tree, .error .spawn)

end Verification

end ClientForge
