/-
  The tests of generated code.

  Each endpoint that is not excluded gets two: one with the credential that is accepted, which
  expects the fixture's payload, and one with a credential that is refused, which expects an error
  and, where the endpoint gives a value, an empty one to fall back to.
-/
import ClientForge.Code.Printer
import ClientForge.Config.Basic
import ClientForge.Sdk.Client

namespace ClientForge.Sdk

open ClientForge.Code

/-! ## Arguments -/

/-- A value for a single argument. -/
def dummyScalar (graph : Graph) (token : TypeToken) : Expr :=
  match graph.scalarOf? token with
  | some .string => .method (.text "foo") "to_string" []
  | some .int32 | some .int64 | some .integer => .int 1
  | some .float | some .double | some .number => .float (.ofNat false 1)
  | some .boolean => .bool true
  | some .date => .call "chrono::NaiveDate::default" []
  | some .dateTime => .call "chrono::DateTime::<chrono::Utc>::default" []
  | none => .ident "Default::default()"

/-- A value of a type: of a list, one item. -/
def dummyValue (graph : Graph) : TypeToken → Expr
  | .array item => .bang "vec" [dummyValue graph item]
  | .named name =>
    if graph.isStringEnum name then .call (name ++ "::from") [.text "foo"]
    else dummyScalar graph (.named name)
  | token => dummyScalar graph token

/-- The argument for a parameter. -/
def dummyArg (graph : Graph) (field : Field) : Expr :=
  let value := dummyValue graph field.type
  if (paramType graph field).isOption then .call "Some" [value] else value

/-- The argument for the body. -/
def dummyBody (graph : Graph) (payload : Payload) : Expr :=
  let value : Expr := .ident "Default::default()"
  if (bodyType graph payload).isOption then .call "Some" [value] else value

/-- The call of an endpoint's method. -/
def dummyCall (graph : Graph) (endpoint : Endpoint) : Expr :=
  .method (.ident "client") (Naming.methodIdent endpoint.name)
    (endpoint.params.map (dummyArg graph) ++ endpoint.request.toList.map (dummyBody graph))

/-- What a failed call falls back to: an empty list for a list, the default for any other value. -/
def sentinel? (graph : Graph) (endpoint : Endpoint) : Option Expr :=
  endpoint.response.map fun token => match token with
    | .array item => .raw ("Vec::<" ++ (typeOf graph item).text ++ ">::new()")
    | token => .raw ("<" ++ (typeOf graph token).text ++ ">::default()")

/-! ## Tests -/

/-- The name of a test. -/
def testName (endpoint : Endpoint) (scenario : String) : String :=
  Naming.withoutRawMark (Naming.methodIdent endpoint.name) ++ "_" ++ scenario

/-- A test. -/
def testFunction (name : String) (body : List Stmt) : Function where
  name := name
  attributes := ["test"]
  body := body

/-- A local name for a value. -/
def bindLocal (name : String) (value : Expr) : Stmt := .letIn name false none value

/-- The stand-in for the server. -/
def mockTransport : Expr := .call "MockTransport::new" [.ident "FIXTURES"]

/-- The test with the credential that is accepted. -/
def happyPath (graph : Graph) (endpoint : Endpoint) : Function :=
  let response := responseType graph endpoint
  let unwrapped : Expr := .method (.ident "result") "expect" [.text "request succeeds"]
  let expected := if response = .unit then [] else
    [Stmt.letIn "expected" false (some response) (.method (.ident "transport") "expected"
      [.text endpoint.route, .text endpoint.method.name])]
  let check : Expr := if response = .unit then unwrapped
    else .bang "assert_eq" [unwrapped, .ident "expected"]
  testFunction (testName endpoint "happy_path")
    ([bindLocal "transport" mockTransport] ++ expected ++
      [bindLocal "client" (.call "Client::new" [.ident "VALID_API_KEY", .ident "transport"]),
        bindLocal "result" (dummyCall graph endpoint), .run check])

/-- The test with a credential that is refused. -/
def unhappyPath (graph : Graph) (endpoint : Endpoint) : Function :=
  let fallback := (sentinel? graph endpoint).toList.map fun value =>
    Stmt.run (.bang "assert_eq" [.method (.ident "result") "unwrap_or_default" [], value])
  testFunction (testName endpoint "unhappy_path")
    ([bindLocal "client" (.call "Client::new" [.ident "INVALID_API_KEY", mockTransport]),
      bindLocal "result" (dummyCall graph endpoint),
      .run (.bang "assert" [.method (.ident "result") "is_err" []])] ++ fallback)

/-- The module of the tests. -/
def testsModule (graph : Graph) (config : Config) (endpoints : List Endpoint) : Module where
  doc := ["Example-driven tests generated from the API document."]
  attributes := ["allow(unused_imports)"]
  uses := ["crate::client::ApiClient", "crate::mock::FIXTURES", "crate::models::*",
    "crate::transport::\x7bClient, INVALID_API_KEY, MockTransport, VALID_API_KEY\x7d"]
  decls := (endpoints.filter fun endpoint => !config.skips endpoint.route).flatMap fun endpoint =>
    [.function (happyPath graph endpoint), .function (unhappyPath graph endpoint)]

end ClientForge.Sdk
