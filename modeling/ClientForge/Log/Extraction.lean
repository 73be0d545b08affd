/-
  What is said while endpoints are extracted.

  Parameters, responses and bodies that cannot be followed are warned of, and so are parameters
  given twice and routes that are only in the document or only in the list.  A failure ends the
  row at the operation that causes it.
-/
import ClientForge.Endpoint.Extraction
import ClientForge.Log.Basic

namespace ClientForge.Log

open ClientForge.Extraction

/-- Said when a model is made for a schema without a name. -/
def shapeNotices (schema : Schema) : List Notice :=
  if schema.resolve.isAnonymous then [⟨.resolution, .debug⟩] else []

/-- Said about the parameters of an operation, those in `seen` having gone before. -/
def parameterNotices (doc : Document) (seen : List (String × Location)) :
    List Parameter → List Notice
  | [] => []
  | raw :: rest => match doc.resolve? raw with
    | none => ⟨.extraction, .warn⟩ :: parameterNotices doc seen rest
    | some param => match locationOf? param with
      | none => ⟨.extraction, .debug⟩ :: parameterNotices doc seen rest
      | some location =>
        let own := (param.name, location)
        (if seen.contains own then [⟨.extraction, .warn⟩] else [])
          ++ param.schema.toList.flatMap shapeNotices
          ++ parameterNotices doc (own :: seen) rest

/-- Said about a payload. -/
def payloadNotices (content : Option Content) (component : Option String) : List Notice :=
  match (content.bind Content.json?).bind MediaType.schema with
  | none => []
  | some schema =>
    if component.isSome && !schema.isBareReference then [] else shapeNotices schema

/-- Said about the response of an operation. -/
def responseNotices (doc : Document) (op : Operation) : List Notice :=
  match success? op with
  | none => []
  | some (_, response) => match response.reference with
    | none => payloadNotices response.content none
    | some reference =>
      let key := Naming.referencedKey reference
      match doc.responses.get? key with
      | some component => payloadNotices component.content (some key)
      | none => [⟨.extraction, .warn⟩]

/-- Said about the request body of an operation. -/
def requestNotices (doc : Document) (op : Operation) : List Notice :=
  match op.requestBody with
  | none => []
  | some body => match bodySource? doc body with
    | some (content, component, _) => payloadNotices content component
    | none => [⟨.extraction, .warn⟩]

/-- Whether a placeholder of the route has no parameter. -/
def isUnbound (doc : Document) (route : String) (item : PathItem) (op : Operation) : Bool :=
  let bound := (parametersOf doc item op).filter fun (_, location) => location == .path
  (Route.placeholders route).any fun name => !bound.any fun (param, _) => param.name == name

/-- Said about an operation, and whether extraction ends with it. -/
def operationNotices (doc : Document) (route : String) (item : PathItem) (op : Operation) :
    List Notice × Bool :=
  let first := (if op.id.isNone then [⟨.extraction, .debug⟩] else [])
    ++ parameterNotices doc [] (item.parameters.getD [] ++ op.parameters.getD [])
  if isUnbound doc route item op then (first, true)
  else
    (first ++ responseNotices doc op ++ requestNotices doc op ++ [⟨.extraction, .debug⟩], false)

/-- Said about a route of the order, step by step. -/
def routeNotices (doc : Document) (route : String) : List (List Notice × Bool) :=
  match doc.paths.get? route with
  | none => [([⟨.extraction, .warn⟩], false)]
  | some item => item.operations.map fun (_, op) => operationNotices doc route item op

/-- The notices of steps up to the first that ends the row. -/
def untilEnd : List (List Notice × Bool) → List Notice
  | [] => []
  | (notices, ends) :: rest => if ends then notices else notices ++ untilEnd rest

/-- Said about the order of routes. -/
def orderNotices (doc : Document) (routes : List String) : List Notice :=
  if routes.isEmpty then [⟨.extraction, .debug⟩]
  else (doc.paths.keys.filter fun route => !routes.contains route).map
    fun _ => ⟨.extraction, .warn⟩

/-- Said while the endpoints of a document are extracted. -/
def extractionNotices (doc : Document) (routes : List String) : List Notice :=
  orderNotices doc routes ++ untilEnd ((routeOrder doc routes).flatMap (routeNotices doc))

end ClientForge.Log
