/-
  What the command line asks for.

  Options may stand before and after the document.  A value follows its option as the next
  argument, or in the same one: after an equals sign, or right after a short option.  Short
  options without values can be run together.  Everything after two dashes alone is no option.
  Except for verbosity an option is given once at most, and no value is empty.
-/
import ClientForge.Text.Split

namespace ClientForge.CommandLine

/-- What a run is to do. -/
structure Options where
  /-- The path of the document. -/
  document : String
  /-- The path of the directory for the crate. -/
  out : String := "sdk"
  /-- The path of the configuration. -/
  config : Option String := none
  /-- Whether the crate is tried out afterwards. -/
  verify : Bool := false
  /-- How often more notices are asked for. -/
  verbosity : Nat := 0
deriving DecidableEq, Repr, Inhabited

/-- What the command line asks for. -/
inductive Request where
  | help
  | version
  | run (options : Options)
deriving DecidableEq, Repr

/-- An option that takes a value. -/
inductive Setting where
  | out
  | config
deriving DecidableEq, Repr

/-- An option. -/
inductive Choice where
  | setting (setting : Setting)
  | verify
  | verbose
  | help
  | version
deriving DecidableEq, Repr

/-- The options by their long names. -/
def longNames : List (String × Choice) :=
  [("out", .setting .out), ("config", .setting .config), ("verify", .verify),
    ("verbose", .verbose), ("help", .help), ("version", .version)]

/-- The options by their short names. -/
def shortNames : List (Char × Choice) :=
  [('o', .setting .out), ('c', .setting .config), ('v', .verbose), ('h', .help),
    ('V', .version)]

/-! ## What is gathered -/

/-- What has been given so far. -/
structure Given where
  document : Option String := none
  out : Option String := none
  config : Option String := none
  verify : Bool := false
  verbosity : Nat := 0

namespace Given

/-- With the document given. -/
def withDocument? (given : Given) (path : String) : Option Given :=
  if path.isEmpty || given.document.isSome then none
  else some { given with document := some path }

/-- With the value of an option given. -/
def withValue? (given : Given) (setting : Setting) (value : String) : Option Given :=
  if value.isEmpty then none
  else match setting with
    | .out => if given.out.isSome then none else some { given with out := some value }
    | .config => if given.config.isSome then none else some { given with config := some value }

/-- With verification asked for. -/
def withVerify? (given : Given) : Option Given :=
  if given.verify then none else some { given with verify := true }

/-- What is to be done, if nothing is missing. -/
def request? (given : Given) : Option Request :=
  given.document.map fun document =>
    let default : Options := { document }
    .run {
      document
      out := given.out.getD default.out
      config := given.config
      verify := given.verify
      verbosity := given.verbosity }

end Given

/-! ## Reading arguments -/

/-- What an argument leads to. -/
inductive Step where
  /-- Reading goes on. -/
  | go (given : Given)
  /-- The next argument is the value of an option. -/
  | await (given : Given) (setting : Setting)
  /-- Nothing more is looked at. -/
  | stop (request : Request)

/-- What an option without a value leads to. -/
def Choice.step? (given : Given) : Choice → Option Step
  | setting s => some (.await given s)
  | verify => given.withVerify?.map .go
  | verbose => some (.go { given with verbosity := given.verbosity + 1 })
  | help => some (.stop .help)
  | version => some (.stop .version)

/-- What a long option leads to, without its dashes. -/
def longStep? (given : Given) (cs : List Char) : Option Step := do
  let name := cs.takeWhile (· != '=')
  let choice ← longNames.lookup (String.ofList name)
  match cs.drop name.length, choice with
  | [], choice => choice.step? given
  | _ :: value, .setting s => (given.withValue? s (String.ofList value)).map .go
  | _, _ => none

/-- What short options run together lead to, without their dash. -/
def shortStep? (given : Given) : List Char → Option Step
  | [] => some (.go given)
  | c :: cs => do
    match ← shortNames.lookup c, cs with
    | .setting s, [] => some (.await given s)
    | .setting s, '=' :: value => (given.withValue? s (String.ofList value)).map .go
    | .setting s, value => (given.withValue? s (String.ofList value)).map .go
    | choice, cs => match ← choice.step? given with
      | .go given => shortStep? given cs
      | other => some other

/-- Whether an argument looks like an option. -/
def isOption (arg : String) : Bool :=
  match arg.toList with
  | '-' :: _ :: _ => true
  | _ => false

/-- What an argument leads to where a value is not awaited. -/
def argStep? (given : Given) (arg : String) : Option Step :=
  match arg.toList with
  | '-' :: '-' :: name => longStep? given name
  | '-' :: c :: cs => shortStep? given (c :: cs)
  | _ => (given.withDocument? arg).map .go

/-- What the arguments ask for from a point on; nothing if they cannot be understood. -/
def requestFrom (given : Given) (awaited : Option Setting) (onlyDocument : Bool) :
    List String → Option Request
  | [] => if awaited.isSome then none else given.request?
  | arg :: rest =>
    if onlyDocument then
      (given.withDocument? arg).bind fun given => requestFrom given awaited true rest
    else match awaited with
      | some setting =>
        if isOption arg then none
        else (given.withValue? setting arg).bind fun given => requestFrom given none false rest
      | none =>
        if arg == "--" then requestFrom given none true rest
        else match argStep? given arg with
          | none => none
          | some (.go given) => requestFrom given none false rest
          | some (.await given setting) => requestFrom given (some setting) false rest
          | some (.stop request) => some request

/-- What the arguments ask for. -/
def request? (args : List String) : Option Request := requestFrom {} none false args

example : request? ["-vv", "a.json", "--out=x"] =
    some (.run { document := "a.json", out := "x", verbosity := 2 }) := by decide +kernel
example : request? ["a.json", "--out"] = none := by decide +kernel
example : request? ["--", "-x.json"] = some (.run { document := "-x.json" }) := by decide +kernel

end ClientForge.CommandLine
