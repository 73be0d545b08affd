/-
  What a run can be told: the name of the package, the routes and their order, the routes without
  tests, and payloads that stand in for the document's examples.
-/
import ClientForge.Endpoint.Method
import ClientForge.Json.Reader
import ClientForge.Document.Decode
import ClientForge.Text.Blank
import ClientForge.Text.Quoted

namespace ClientForge

/-- A payload that replaces the example of an operation. -/
structure ExampleOverride where
  route : String
  /-- The name of the method in any mixture of upper and lower case. -/
  method : String
  /-- The payload as JSON text. -/
  body : String
deriving DecidableEq, Repr, Inhabited

/-- The configuration of a run. -/
structure Config where
  packageName : String := "openapi-sdk"
  /-- The routes to visit in order; all of the document's if there is none. -/
  routes : List String := []
  /-- The routes that get no fixture and no tests. -/
  skipTests : List String := []
  overrides : List ExampleOverride := []
deriving DecidableEq, Repr, Inhabited

namespace Config

/-- The JSON value of a text. -/
def jsonOfText? (text : String) : Option Json := (Json.read? text).bind Source.json?

/-- The override for an operation; of several the first. -/
def override? (config : Config) (route : String) (method : Method) : Option ExampleOverride :=
  config.overrides.find? fun o => o.route == route && Method.ofName? o.method == some method

/-- The payload that replaces the example of an operation. -/
def payload? (config : Config) (route : String) (method : Method) : Option Json :=
  (config.override? route method).bind fun o => jsonOfText? o.body

/-- Whether an endpoint on the route gets neither fixture nor tests. -/
def skips (config : Config) (route : String) : Bool := config.skipTests.contains route

/-! ## Validity -/

/-- What can be wrong with a configuration. -/
inductive Fault where
  /-- It is not well-formed, lacks a member or has one too many. -/
  | malformed
  | emptyPackageName
  /-- An override for the route names a method that there is not. -/
  | unknownMethod (route method : String)
  /-- The payload of an override is not JSON. -/
  | badBody (method route : String)
deriving DecidableEq, Repr

/-- The wording of a fault, where it does not depend on the reader of the text. -/
def Fault.message? : Fault → Option String
  | malformed => none
  | emptyPackageName => some "invalid configuration: package_name is empty"
  | unknownMethod route method =>
    some ("invalid configuration: example override for " ++ route ++ " has unknown method "
      ++ Text.quoted method)
  | badBody method route =>
    some ("invalid configuration: example override for " ++ method ++ " " ++ route
      ++ " is not valid JSON")

/-- The fault of an override. -/
def overrideFault? (o : ExampleOverride) : Option Fault :=
  if (Method.ofName? o.method).isNone then some (.unknownMethod o.route o.method)
  else if (jsonOfText? o.body).isNone then some (.badBody o.method o.route)
  else none

/-- The first fault of a configuration. -/
def fault? (config : Config) : Option Fault :=
  if (Text.trim config.packageName.toList).isEmpty then some .emptyPackageName
  else config.overrides.findSome? overrideFault?

end Config

end ClientForge
