/-
  The client: it puts requests together, hands them to a transport and reads the answers.

  An answer with a status beyond the two hundreds is an error.  A body that is empty or null, up
  to white space around it, gives the default of the type that is wanted.
-/
import ClientForge.Client.Mock
import ClientForge.Config.Basic

namespace ClientForge.Client

/-! ## Requests and answers -/

/-- A request on its way out. -/
structure Request where
  method : String
  /-- The base address with the path behind it. -/
  url : String
  /-- The route with its parameters put in, and the query. -/
  path : String
  apiKey : String
  /-- JSON text, if there is a body. -/
  body : Option String
deriving DecidableEq, Repr, Inhabited

/-- An answer as it comes in. -/
structure Answer where
  status : Nat
  body : String
deriving DecidableEq, Repr, Inhabited

/-- What can go wrong with a request. -/
inductive Fault where
  /-- The request could not be carried out. -/
  | transport (reason : String)
  | status (status : Nat) (body : String)
  /-- The body could not be read. -/
  | json
deriving DecidableEq, Repr

/-- The wording of a fault, where it does not come from a reader. -/
def Fault.message? : Fault → Option String
  | transport reason => some ("transport failed: " ++ reason)
  | status code body =>
    some ("request failed with status " ++ decimalText code ++ ": " ++ body)
  | json => none

/-- What carries out requests. -/
abbrev Transport := Request → Except Fault Answer

/-! ## The stand-in -/

/-- The credential that the stand-in accepts. -/
def validKey : String := "foo"

/-- The transport that answers from a table. -/
def mockTransport (table : List Canned) : Transport := fun request =>
  .ok <|
    if request.apiKey != validKey then ⟨401, "\x7b\"message\":\"invalid api key\"\x7d"⟩
    else match Mock.lookup table request.method request.path with
      | some canned => ⟨canned.status, canned.body⟩
      | none => ⟨404, "\x7b\"message\":\"no fixture for " ++ request.method ++ " " ++ request.path
          ++ "\"\x7d"⟩

/-! ## The client -/

/-- A client with its credential and the address it talks to. -/
structure Session where
  apiKey : String
  baseUrl : String
deriving DecidableEq, Repr, Inhabited

namespace Session

/-- The client with another address, without the slashes at its end. -/
def withBaseUrl (session : Session) (url : String) : Session :=
  { session with baseUrl := String.ofList (Text.dropEndWhile (· == '/') url.toList) }

/-- What a message about the client shows of it. -/
def shown (session : Session) : String :=
  "Client \x7b base_url: " ++ Text.quoted session.baseUrl ++ ", .. \x7d"

/-- The request for a path. -/
def request (session : Session) (method path : String) (body : Option Json) : Request where
  method := method
  url := session.baseUrl ++ path
  path := path
  apiKey := session.apiKey
  body := body.map Json.compact

end Session

/-- The value of a body, or the default where the body is empty or null. -/
def decode {α : Type} (default : α) (read : Json → Option α) (body : String) : Option α :=
  let text := String.ofList (Text.trim body.toList)
  if text.isEmpty || text == "null" then some default else (Config.jsonOfText? text).bind read

/-- Sends a request and reads the answer. -/
def perform {α : Type} (transport : Transport) (default : α) (read : Json → Option α)
    (request : Request) : Except Fault α := do
  let answer ← transport request
  if answer.status < 200 || 300 ≤ answer.status then throw (.status answer.status answer.body)
  match decode default read answer.body with
  | some value => pure value
  | none => throw .json

/-! ## Kinds of values -/

/-- A list of whole numbers of 64 bits with a sign. -/
def wholeNumbers? : Json → Option (List Int)
  | .array items => items.mapM fun item => match item with
    | .integer n => if n < Int.pow 2 63 then some n else none
    | _ => none
  | _ => none

/-- A text. -/
def text? : Json → Option String
  | .text s => some s
  | _ => none

end ClientForge.Client
