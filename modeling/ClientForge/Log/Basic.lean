/-
  What a run says about itself on the way.

  A notice tells which part of the program speaks and how much the message matters.  The levels
  are ordered: a listener that wants one level wants all that matter more.
-/
namespace ClientForge.Log

/-- How much a notice matters. -/
inductive Level where
  | error
  | warn
  | info
  | debug
  | trace
deriving DecidableEq, Repr, Inhabited

namespace Level

/-- The place of a level in the order; what matters most comes first. -/
def rank : Level → Nat
  | error => 1
  | warn => 2
  | info => 3
  | debug => 4
  | trace => 5

/-- All levels in their order. -/
def all : List Level := [error, warn, info, debug, trace]

/-- The name of a level. -/
def name : Level → String
  | error => "ERROR"
  | warn => "WARN"
  | info => "INFO"
  | debug => "DEBUG"
  | trace => "TRACE"

end Level

/-- A part of the program. -/
inductive Part where
  /-- The program as a whole. -/
  | program
  | config
  | files
  | templates
  /-- The order of the steps that make a crate. -/
  | generation
  | resolution
  | extraction
  | pruning
  | code
  | fixtures
deriving DecidableEq, Repr, Inhabited

/-- The name that all parts share at their start. -/
def rootTarget : String := "openapi_sdkgen"

/-- The name under which a part speaks. -/
def Part.target (part : Part) : String :=
  rootTarget ++ match part with
    | program => ""
    | config => "::config"
    | files => "::writer"
    | templates => "::templates"
    | generation => "::openapi::emitter"
    | resolution => "::openapi::ir::resolve"
    | extraction => "::openapi::ir::extract"
    | pruning => "::openapi::ir::prune"
    | code => "::openapi::ir::codegen"
    | fixtures => "::openapi::ir::fixtures"

/-- One message. -/
structure Notice where
  part : Part
  level : Level
deriving DecidableEq, Repr, Inhabited

end ClientForge.Log
