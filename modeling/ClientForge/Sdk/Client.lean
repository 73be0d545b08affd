/-
  The methods of the client.

  Each endpoint becomes one method.  Its body puts the path together from the route's segments,
  adds the query parameters that are given, and hands both to the one function that sends
  requests.
-/
import ClientForge.Code.Basic
import ClientForge.Naming.Claims
import ClientForge.Naming.Identifier
import ClientForge.Sdk.Types

namespace ClientForge.Sdk

open ClientForge.Code

/-! ## Identifiers -/

/-- The names that the body of a method uses itself. -/
def bodyLocals : List String := ["path", "query", "body"]

/-- The identifier wished for by the parameter at a place. -/
def paramIdent (index : Nat) (field : Field) : String :=
  match Naming.fieldIdent field.key with
  | .ok ident => if bodyLocals.contains ident then ident ++ "_" else ident
  | .error _ => "param_" ++ decimalText index

/-- The identifiers of the parameters in their order, all different. -/
def paramIdents (endpoint : Endpoint) : List String :=
  Names.empty.claimIdents (endpoint.params.mapIdx paramIdent)

/-! ## Values as text -/

/-- A truth value as a word. -/
def boolWord (value : Expr) : Expr := .conditional value (.text "true") (.text "false")

/-- A date as text. -/
def dateText (value : Expr) : Expr :=
  .method (.method value "format" [.text "%Y-%m-%d"]) "to_string" []

/-- A time as text. -/
def dateTimeText (value : Expr) : Expr :=
  .method value "to_rfc3339_opts" [.ident "chrono::SecondsFormat::Secs", .bool true]

/-- A value as JSON. -/
def jsonText (value : Expr) : Expr :=
  .method (.call "serde_json::to_string" [value]) "unwrap_or_default" []

/-- An item of a list as text; the item is held by reference. -/
def itemText (kind : WireKind) (item : Expr) : Expr :=
  match kind with
  | .textEnum => .method item "as_str" []
  | .date => dateText item
  | .dateTime => dateTimeText item
  | .bool => boolWord (.deref item)
  | .json => jsonText item
  | .text | .display => .method item "to_string" []

/-- A list as text, its items separated by commas. -/
def listText (kind : WireKind) (value : Expr) : Expr :=
  if kind = .text then .method value "join" [.text ","]
  else
    let texts : Expr := .method (.method value "iter" []) "map"
      [.closure "e" (itemText kind (.ident "e"))]
    .method (.method texts "collect::<Vec<_>>" []) "join" [.text ","]

/-- A single value as text of its own. -/
def scalarText (kind : WireKind) (value : Expr) : Expr :=
  match kind with
  | .text => value
  | .textEnum => .method (.method value "as_str" []) "to_string" []
  | .display => .method value "to_string" []
  | .date => dateText value
  | .dateTime => dateTimeText value
  | .bool => .call "String::from" [boolWord value]
  | .json => jsonText (.borrow value)

/-- The value of a path parameter as text that is borrowed. -/
def pathText (graph : Graph) (field : Field) (ident : String) : Expr :=
  let value : Expr := .ident ident
  if field.isArray then .borrow (listText (wireKind graph field.type.element) value)
  else match wireKind graph field.type with
    | .text => .borrow value
    | .textEnum => .method value "as_str" []
    | .display => .borrow (.method value "to_string" [])
    | .date => .borrow (dateText value)
    | .dateTime => .borrow (dateTimeText value)
    | .bool => boolWord value
    | .json => .borrow (jsonText (.borrow value))

/-! ## The body of a method -/

/-- The text that a segment of the route adds to the path.  Of two parameters with one name the
first counts; a placeholder without one stays as it is. -/
def segmentText (graph : Graph) (bound : List (Field × String)) : Segment → Expr
  | .literal text => .text text
  | .param name => match bound.find? fun (field, _) => field.key == name with
    | some (field, ident) => pathText graph field ident
    | none => .text ("\x7b" ++ name ++ "\x7d")

/-- The statements that put the path together. -/
def pathStatements (graph : Graph) (endpoint : Endpoint) (idents : List String) : List Stmt :=
  let bound := endpoint.pathParams.zip idents
  let (start, rest) : Expr × List Segment := match Route.segments endpoint.route with
    | .literal text :: rest => (.call "String::from" [.text text], rest)
    | segments => (.call "String::new" [], segments)
  let pushes := rest.map fun segment =>
    Stmt.run (.method (.ident "path") "push_str" [segmentText graph bound segment])
  .letIn "path" (!pushes.isEmpty || !endpoint.queryParams.isEmpty) none start :: pushes

/-- The statement that adds a pair to the query. -/
def pushPair (key : String) (value : Expr) : Stmt :=
  .run (.method (.ident "query") "push" [.tuple [.text key, value]])

/-- The statement that adds a query parameter: always if it is required, else only if it is given
or not empty. -/
def queryStatement (graph : Graph) (field : Field) (ident : String) : Stmt :=
  if field.isArray then
    let push := pushPair field.key (listText (wireKind graph field.type.element) (.ident ident))
    if field.required then push else .when (.raw ("!" ++ ident ++ ".is_empty()")) [push]
  else
    let kind := wireKind graph field.type
    if field.required then pushPair field.key (scalarText kind (.ident ident))
    else .whenMatches "Some(value)" (.ident ident)
      [pushPair field.key (scalarText kind (.ident "value"))]

/-- The statements that add the query to the path. -/
def queryStatements (graph : Graph) (endpoint : Endpoint) (idents : List String) : List Stmt :=
  if endpoint.queryParams.isEmpty then []
  else
    .letIn "query" true (some (.vec (.path "(&str, String)"))) (.call "Vec::new" [])
      :: (endpoint.queryParams.zip idents).map (fun (field, ident) =>
        queryStatement graph field ident)
      ++ [.run (.call "append_query" [.raw "&mut path", .borrow (.ident "query")])]

/-- The body that is sent. -/
def bodyArgument (request : Option Payload) : Expr :=
  match request with
  | none => .raw "None::<&()>"
  | some payload =>
    if payload.required then .call "Some" [.borrow (.ident "body")]
    else .method (.ident "body") "as_ref" []

/-- The statements of a method. -/
def methodBody (graph : Graph) (endpoint : Endpoint) : List Stmt :=
  let idents := paramIdents endpoint
  let count := endpoint.pathParams.length
  pathStatements graph endpoint (idents.take count)
    ++ queryStatements graph endpoint (idents.drop count)
    ++ [.tail (.method (.ident "self") "request_handler"
      [.text endpoint.method.name, .borrow (.ident "path"), bodyArgument endpoint.request])]

/-! ## Methods -/

/-- The comment of a method. -/
def methodDoc (endpoint : Endpoint) : List String :=
  (match endpoint.description with
    | some text => [text, ""]
    | none => [])
  ++ ["\x60" ++ endpoint.method.name ++ " " ++ endpoint.route ++ "\x60"]

/-- The method of an endpoint. -/
def methodOf (graph : Graph) (endpoint : Endpoint) : Function where
  name := Naming.methodIdent endpoint.name
  doc := methodDoc endpoint
  takesSelf := true
  params := (paramIdents endpoint).zip (endpoint.params.map (paramType graph))
    ++ endpoint.request.toList.map fun payload => ("body", bodyType graph payload)
  result := .result (responseType graph endpoint)
  body := methodBody graph endpoint

/-- The module of the client: an interface with the methods, and the client's own. -/
def clientModule (graph : Graph) (endpoints : List Endpoint) : Module where
  doc := ["Client methods generated from the API document."]
  attributes := ["allow(unused_imports, unused_mut)"]
  uses := ["crate::error::Error", "crate::models::*",
    "crate::transport::\x7bClient, append_query\x7d"]
  decls :=
    let methods := endpoints.map (methodOf graph)
    [.interface "ApiClient" (some "Operations of the API.")
        (methods.map fun m => { m with body := [] }),
      .implementation (some "ApiClient") "Client" (methods.map fun m => { m with doc := [] })]

end ClientForge.Sdk
