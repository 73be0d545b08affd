/-
  The document: what an API offers.

  It declares servers, operations by route and method, and components that references lead to.
  Nothing here checks that a document makes sense; a reference may lead nowhere.
-/
import ClientForge.Document.Schema
import ClientForge.Endpoint.Method
import ClientForge.Naming.Identifier

namespace ClientForge

/-! ## Payloads -/

/-- A named example. -/
structure Example where
  value : Option Json := none
deriving Inhabited

/-- A payload in one media type. -/
structure MediaType where
  schema : Option Schema := none
  sample : Option Json := none
  samples : Option (Table Example) := none
deriving Inhabited

/-- Payloads by media type. -/
abbrev Content := Table MediaType

/-- The example given for a payload: the single one, else the first named one that has a value. -/
def MediaType.explicitSample? (media : MediaType) : Option Json :=
  media.sample.or ((media.samples.getD .empty).values.findSome? Example.value)

/-- The key of the payload to use: JSON itself, else the first kind of JSON, else the first. -/
def Content.jsonKey? (content : Content) : Option String :=
  if content.contains "application/json" then some "application/json"
  else
    let isJson (key : String) := "+json".toList.isSuffixOf key.toList
    (content.keys.find? isJson).or content.keys.head?

/-- The payload to use. -/
def Content.json? (content : Content) : Option MediaType := content.jsonKey?.bind content.get?

/-! ## Operations -/

/-- A parameter of an operation, or a reference to one. -/
structure Parameter where
  reference : Option String := none
  name : String := ""
  /-- Where it goes, as the document says it. -/
  location : String := ""
  required : Bool := false
  description : Option String := none
  schema : Option Schema := none
deriving Inhabited

/-- What an operation takes. -/
structure RequestBody where
  reference : Option String := none
  description : Option String := none
  required : Bool := false
  content : Option Content := none
deriving Inhabited

/-- What an operation gives. -/
structure Response where
  reference : Option String := none
  description : Option String := none
  content : Option Content := none
deriving Inhabited

/-- An operation. -/
structure Operation where
  id : Option String := none
  summary : Option String := none
  description : Option String := none
  parameters : Option (List Parameter) := none
  requestBody : Option RequestBody := none
  /-- By status code. -/
  responses : Table Response := .empty
deriving Inhabited

/-- The operations on one route. -/
structure PathItem where
  get : Option Operation := none
  post : Option Operation := none
  put : Option Operation := none
  patch : Option Operation := none
  delete : Option Operation := none
  /-- Parameters of all of them. -/
  parameters : Option (List Parameter) := none
deriving Inhabited

namespace PathItem

/-- The operation of a method. -/
def operation? (item : PathItem) : Method → Option Operation
  | .get => item.get
  | .post => item.post
  | .put => item.put
  | .patch => item.patch
  | .delete => item.delete

/-- The operations there are, in the fixed order of methods. -/
def operations (item : PathItem) : List (Method × Operation) :=
  Method.all.filterMap fun method => (item.operation? method).map fun op => (method, op)

end PathItem

/-! ## The whole -/

/-- What a document says about itself. -/
structure Info where
  title : Option String := none
  version : Option String := none
  description : Option String := none
deriving Inhabited

/-- Where an API is served. -/
structure Server where
  url : String
deriving Inhabited

/-- What references lead to. -/
structure Components where
  schemas : Option (Table Schema) := none
  responses : Option (Table Response) := none
  requestBodies : Option (Table RequestBody) := none
  parameters : Option (Table Parameter) := none
deriving Inhabited

/-- The description of an API. -/
structure Document where
  info : Option Info := none
  servers : List Server := []
  /-- By route. -/
  paths : Table PathItem := .empty
  components : Option Components := none
deriving Inhabited

namespace Document

/-- The address of the first server, if it has one. -/
def baseUrl? (doc : Document) : Option String :=
  (doc.servers.head?.map Server.url).filter fun url => !url.isEmpty

/-- The title, or `API`. -/
def title (doc : Document) : String := (doc.info.bind Info.title).getD "API"

/-- The version, or `0.0.0`. -/
def version (doc : Document) : String := (doc.info.bind Info.version).getD "0.0.0"

/-- The schemas that are components. -/
def schemas (doc : Document) : Table Schema := (doc.components.bind Components.schemas).getD .empty

/-- The responses that are components. -/
def responses (doc : Document) : Table Response :=
  (doc.components.bind Components.responses).getD .empty

/-- The request bodies that are components. -/
def requestBodies (doc : Document) : Table RequestBody :=
  (doc.components.bind Components.requestBodies).getD .empty

/-- The parameters that are components. -/
def parameters (doc : Document) : Table Parameter :=
  (doc.components.bind Components.parameters).getD .empty

/-- The parameter that is meant: itself, or the component it refers to. -/
def resolve? (doc : Document) (param : Parameter) : Option Parameter :=
  match param.reference with
  | none => some param
  | some reference => doc.parameters.get? (Naming.referencedKey reference)

end Document

end ClientForge
