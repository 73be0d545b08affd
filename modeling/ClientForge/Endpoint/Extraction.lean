/-
  The endpoints of a document.

  Routes are visited in the order the caller gives, or in the order of their text; on each route
  the operations come in the fixed order of methods.  An inline payload or parameter becomes a
  model under a name that no other model has.  The only failure is a placeholder of a route for
  which the operation has no path parameter, and the first one met is reported.
-/
import ClientForge.Endpoint.Basic
import ClientForge.Model.OfDocument

namespace ClientForge

/-- A placeholder of a route for which there is no path parameter. -/
structure UnboundPlaceholder where
  route : String
  placeholder : String
deriving DecidableEq, Repr

/-- The endpoints found, and the models made for inline payloads and parameters on the way. -/
structure Extraction where
  endpoints : List Endpoint
  synthesized : List Model
deriving Inhabited

namespace Extraction

/-! ## Parameters -/

/-- Where a parameter goes, if it is one that a method takes. -/
def locationOf? (param : Parameter) : Option Location :=
  match param.location with
  | "path" => some .path
  | "query" => some .query
  | _ => none

/-- The parameters of an operation, those of its route first, references followed.  A parameter
that cannot be followed, or that goes elsewhere, is left out; repeated ones are kept. -/
def parametersOf (doc : Document) (item : PathItem) (op : Operation) :
    List (Parameter × Location) :=
  (item.parameters.getD [] ++ op.parameters.getD []).filterMap fun raw => do
    let param ← doc.resolve? raw
    let location ← locationOf? param
    pure (param, location)

/-- The field of a parameter; one without a schema is a text. -/
def paramField (endpoint : String) (param : Parameter) (location : Location) (names : Names) :
    Built Field :=
  let type : Built TypeToken := match param.schema with
    | some schema => bindSchema (Naming.hoistedName endpoint param.name) schema names
    | none => ⟨.primitive .string, [], names⟩
  let field := Field.param param.name type.result location param.required
  ⟨{ field with description := param.description }, type.hoisted, type.names⟩

/-- The fields of the parameters in their order. -/
def paramFields (endpoint : String) :
    List (Parameter × Location) → Names → Built (List Field)
  | [], names => ⟨[], [], names⟩
  | (param, location) :: rest, names =>
    let field := paramField endpoint param location names
    let others := paramFields endpoint rest field.names
    ⟨field.result :: others.result, field.hoisted ++ others.hoisted, others.names⟩

/-! ## Payloads -/

/-- The example of a payload: its own, else its schema's, else that of the schema referred to. -/
def sampleOf? (doc : Document) (media : MediaType) (schema : Schema) : Option Json :=
  let referred := do
    let reference ← schema.reference
    (← doc.schemas.get? (Naming.referencedKey reference)).sample
  (media.explicitSample?.or schema.sample).or referred

/-- The type of a payload and its example.  The payload of a component is named after it, unless
it is just a reference to a schema. -/
def payloadType (doc : Document) (content : Option Content) (component : Option String)
    (surrogate : String) (names : Names) : Built (Option (TypeToken × Option Json)) :=
  match content.bind Content.json? with
  | none => ⟨none, [], names⟩
  | some media => match media.schema with
    | none => ⟨none, [], names⟩
    | some schema =>
      let sample := sampleOf? doc media schema
      let bound : Built TypeToken :=
        match if schema.isBareReference then none else component with
        | some key => ⟨.named (Naming.typeName key), [], names⟩
        | none => bindSchema surrogate schema names
      ⟨some (bound.result, sample), bound.hoisted, bound.names⟩

/-- The statuses of a success, the preferred one first. -/
def successStatuses : List (String × Nat) := [("200", 200), ("201", 201)]

/-- The response to a success and its status. -/
def success? (op : Operation) : Option (Nat × Response) :=
  successStatuses.findSome? fun (key, status) => (op.responses.get? key).map fun r => (status, r)

/-- What a success gives: its status, its type and its example. -/
def responseOf (doc : Document) (endpoint : String) (op : Operation) (names : Names) :
    Built (Nat × Option (TypeToken × Option Json)) :=
  match success? op with
  | none => ⟨(200, none), [], names⟩
  | some (status, response) =>
    let (content, component) := match response.reference with
      | some reference =>
        let key := Naming.referencedKey reference
        match doc.responses.get? key with
        | some component => (component.content, some key)
        | none => (none, none)
      | none => (response.content, none)
    let payload := payloadType doc content component (endpoint ++ "RespObj") names
    ⟨(status, payload.result), payload.hoisted, payload.names⟩

/-- The content of a request body, the component it comes from, and whether it must be sent. -/
def bodySource? (doc : Document) (body : RequestBody) :
    Option (Option Content × Option String × Bool) :=
  match body.reference with
  | some reference =>
    let key := Naming.referencedKey reference
    (doc.requestBodies.get? key).map fun component =>
      (component.content, some key, component.required || body.required)
  | none => some (body.content, none, body.required)

/-- What a request takes. -/
def requestOf (doc : Document) (endpoint : String) (op : Operation) (names : Names) :
    Built (Option Payload) :=
  match op.requestBody.bind (bodySource? doc) with
  | none => ⟨none, [], names⟩
  | some (content, component, required) =>
    let payload := payloadType doc content component (endpoint ++ "ReqObj") names
    ⟨payload.result.map fun (type, _) => { type, required }, payload.hoisted, payload.names⟩

/-! ## Operations -/

/-- The name of an operation without an identifier, from its method and route. -/
def fallbackName (method : Method) (route : String) : String :=
  let name := String.ofList (Text.lowerAscii method.name.toList)
  Naming.exportedAscii (name ++ "_" ++ route)

/-- The name of an operation. -/
def nameOf (route : String) (method : Method) (op : Operation) : String :=
  match op.id with
  | some id => Naming.endpointName id
  | none => fallbackName method route

/-- The endpoint of an operation. -/
def endpointOf (doc : Document) (route : String) (item : PathItem) (method : Method)
    (op : Operation) (names : Names) : Except UnboundPlaceholder (Built Endpoint) :=
  let name := nameOf route method op
  let params := paramFields name (parametersOf doc item op) names
  let pathParams := params.result.filter fun field => field.location == .path
  match Endpoint.unbound? route pathParams with
  | some placeholder => .error ⟨route, placeholder⟩
  | none =>
    let response := responseOf doc name op params.names
    let request := requestOf doc name op response.names
    let (status, payload) := response.result
    .ok ⟨{
        name, method, route, pathParams, status
        description := op.description.or op.summary
        request := request.result
        response := payload.map Prod.fst
        queryParams := params.result.filter fun field => field.location == .query
        sample := payload.bind Prod.snd },
      params.hoisted ++ response.hoisted ++ request.hoisted, request.names⟩

/-- The routes to visit: those listed, or all of the document's in order. -/
def routeOrder (doc : Document) (routes : List String) : List String :=
  if routes.isEmpty then doc.paths.keys else routes

/-- The operations to visit.  A listed route that the document lacks has none. -/
def visits (doc : Document) (routes : List String) :
    List (String × PathItem × Method × Operation) :=
  (routeOrder doc routes).flatMap fun route => match doc.paths.get? route with
    | some item => item.operations.map fun (method, op) => (route, item, method, op)
    | none => []

/-- The endpoints of the operations in their order. -/
def endpointsOf (doc : Document) :
    List (String × PathItem × Method × Operation) → Names →
      Except UnboundPlaceholder (Built (List Endpoint))
  | [], names => .ok ⟨[], [], names⟩
  | (route, item, method, op) :: rest, names =>
    match endpointOf doc route item method op names with
    | .error e => .error e
    | .ok endpoint => match endpointsOf doc rest endpoint.names with
      | .error e => .error e
      | .ok others =>
        .ok ⟨endpoint.result :: others.result, endpoint.hoisted ++ others.hoisted, others.names⟩

end Extraction

/-- The endpoints of a document on the routes listed.  No model made on the way takes the name of a
model of the graph. -/
def Document.extract (doc : Document) (routes : List String) (graph : Graph) :
    Except UnboundPlaceholder Extraction :=
  (Extraction.endpointsOf doc (Extraction.visits doc routes) (.ofList graph.names)).map
    fun built => ⟨built.result, built.hoisted⟩

end ClientForge
