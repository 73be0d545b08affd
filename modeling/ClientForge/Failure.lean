/-
  Why a run fails.

  Every failure ends the run before anything is handed out.  Where the cause has a wording of its
  own it is part of the failure; the wording of readers and of the system is not.
-/
import ClientForge.Config.Basic
import ClientForge.Endpoint.Extraction

namespace ClientForge

/-- The language of a document. -/
inductive Format where
  | json
  | yaml
deriving DecidableEq, Repr, Inhabited

/-- The name of the language. -/
def Format.name : Format → String
  | json => "JSON"
  | yaml => "YAML"

/-- Why a run fails. -/
inductive Failure where
  /-- A file cannot be read. -/
  | read
  /-- A document is not of its format. -/
  | parse (format : Format)
  | missingServer
  | unboundPlaceholder (cause : UnboundPlaceholder)
  | config (fault : Config.Fault)
  /-- A template cannot be rendered. -/
  | template
  /-- A file or directory cannot be written. -/
  | write
deriving DecidableEq, Repr

namespace Failure

/-- The wording of the failure, as far as it does not come from elsewhere. -/
def message? : Failure → Option String
  | parse format =>
    some ("failed to parse document: invalid " ++ format.name ++ " document")
  | missingServer => some "document declares no server URL"
  | unboundPlaceholder cause =>
    some ("route " ++ cause.route ++ " has placeholder \x7b" ++ cause.placeholder
      ++ "\x7d with no matching path parameter")
  | config fault => fault.message?
  | read => none
  | template => none
  | write => none

end Failure

end ClientForge
