/-
  From a tree to a document.

  Each kind of record lists its members in their fixed order and reads each with the view that
  fits it.  Where a schema leaves the kind of a value open, the tree is typed first, and what its
  scalars then are decides.  Depth is the structural bound of the recursion through schemas.
-/
import ClientForge.Document.Basic
import ClientForge.Document.View

namespace ClientForge.Decode

open ClientForge.View

/-! ## Open values -/

/-- The text of a typed node. -/
def typedText? : Node → Option String
  | .scalar (.text s) => some s
  | _ => none

/-- What the `type` of a schema says. -/
def typeName? (anchors : Anchors) (depth : Nat) (node : Node) : Option TypeName := do
  match ← typed? anchors depth node with
  | .scalar (.text s) => some (.single s)
  | .list _ items => (items.mapM typedText?).map TypeName.several
  | _ => none

/-- A literal of an enumeration.  A whole number that needs the sign bit is an ordinary number. -/
def literal? (anchors : Anchors) (depth : Nat) (node : Node) : Option Literal := do
  match ← typed? anchors depth node with
  | .scalar (.text s) => some (.text s)
  | .scalar (.integer n) =>
    some (if n < Int.pow 2 63 then .integer n else .real (Binary64.ofNat false n.natAbs))
  | .scalar (.real x) => some (.real x)
  | .scalar (.bool b) => some (.bool b)
  | .scalar .null => some .null
  | _ => none

/-! ## Schemas -/

/-- The members of a schema. -/
def schemaMembers : List String :=
  ["type", "$ref", "title", "description", "properties", "required", "items", "enum", "anyOf",
    "oneOf", "allOf", "additionalProperties", "format", "example", "nullable"]

/-- What is said about members beyond the listed ones; `child` reads a schema. -/
def additional? (anchors : Anchors) (depth : Nat) (child : Node → Option Schema) (node : Node) :
    Option (Additional Schema) := do
  match ← typed? anchors depth node with
  | .scalar (.bool b) => some (.allowed b)
  | value => (child value).map Additional.schema

/-- The schema that has those members; `child` reads a schema that is one of them, and `inner` one
that stands in a list or a map. -/
def schemaOf? (anchors : Anchors) (depth : Nat) (child inner : Node → Option Schema)
    (fields : List (String × Node)) : Option Schema := do
  let text := text? anchors
  let properties ← optional anchors fields "properties" (tableOf anchors depth inner)
  pure {
    type := ← optional anchors fields "type" (typeName? anchors depth)
    reference := ← optional anchors fields "$ref" text
    title := ← optional anchors fields "title" text
    description := ← optional anchors fields "description" text
    properties := properties.map Table.entries
    required := ← optional anchors fields "required" (listOf anchors depth text)
    items := ← optional anchors fields "items" child
    literals := ← optional anchors fields "enum"
      (listOf anchors depth (literal? anchors (depth - 1)))
    anyOf := ← optional anchors fields "anyOf" (listOf anchors depth inner)
    oneOf := ← optional anchors fields "oneOf" (listOf anchors depth inner)
    allOf := ← optional anchors fields "allOf" (listOf anchors depth inner)
    additional := ← optional anchors fields "additionalProperties"
      (additional? anchors depth child)
    format := ← optional anchors fields "format" text
    sample := ← optional anchors fields "example" (json? anchors depth)
    nullable := ← optional anchors fields "nullable" (flag? anchors) }

mutual

/-- A schema. -/
def schema? (anchors : Anchors) : Nat → Node → Option Schema
  | 0, node => if isEmpty (follow anchors node) then some {} else none
  | depth + 1, node => do
    let fields ← record? anchors schemaMembers [] (depth + 1) node
    schemaOf? anchors depth (schema? anchors depth) (innerSchema? anchors depth) fields

/-- A schema that stands in a list or a map, which takes one more level. -/
def innerSchema? (anchors : Anchors) : Nat → Node → Option Schema
  | 0, _ => none
  | depth + 1, node => schema? anchors depth node

end

/-! ## Payloads and parameters -/

/-- A named example. -/
def example? (anchors : Anchors) (depth : Nat) (node : Node) : Option Example := do
  let fields ← record? anchors ["value"] [] depth node
  pure { value := ← optional anchors fields "value" (json? anchors (depth - 1)) }

/-- A payload in one media type. -/
def mediaType? (anchors : Anchors) (depth : Nat) (node : Node) : Option MediaType := do
  let fields ← record? anchors ["schema", "example", "examples"] [] depth node
  let depth := depth - 1
  pure {
    schema := ← optional anchors fields "schema" (schema? anchors depth)
    sample := ← optional anchors fields "example" (json? anchors depth)
    samples := ← optional anchors fields "examples"
      (tableOf anchors depth (example? anchors (depth - 1))) }

/-- Payloads by media type. -/
def content? (anchors : Anchors) (depth : Nat) (node : Node) : Option Content :=
  tableOf anchors depth (mediaType? anchors (depth - 1)) node

/-- A parameter. -/
def parameter? (anchors : Anchors) (depth : Nat) (node : Node) : Option Parameter := do
  let fields ← record? anchors ["$ref", "name", "in", "required", "description", "schema"]
    ["name", "in", "required"] depth node
  pure {
    reference := ← optional anchors fields "$ref" (text? anchors)
    name := ← defaulted fields "name" "" (text? anchors)
    location := ← defaulted fields "in" "" (text? anchors)
    required := ← defaulted fields "required" false (flag? anchors)
    description := ← optional anchors fields "description" (text? anchors)
    schema := ← optional anchors fields "schema" (schema? anchors (depth - 1)) }

/-- A request body. -/
def requestBody? (anchors : Anchors) (depth : Nat) (node : Node) : Option RequestBody := do
  let fields ← record? anchors ["$ref", "description", "required", "content"]
    ["required"] depth node
  pure {
    reference := ← optional anchors fields "$ref" (text? anchors)
    description := ← optional anchors fields "description" (text? anchors)
    required := ← defaulted fields "required" false (flag? anchors)
    content := ← optional anchors fields "content" (content? anchors (depth - 1)) }

/-- A response. -/
def response? (anchors : Anchors) (depth : Nat) (node : Node) : Option Response := do
  let fields ← record? anchors ["$ref", "description", "content"] [] depth node
  pure {
    reference := ← optional anchors fields "$ref" (text? anchors)
    description := ← optional anchors fields "description" (text? anchors)
    content := ← optional anchors fields "content" (content? anchors (depth - 1)) }

/-! ## Operations and the whole -/

/-- An operation. -/
def operation? (anchors : Anchors) (depth : Nat) (node : Node) : Option Operation := do
  let fields ← record? anchors ["operationId", "summary", "description", "parameters",
    "requestBody", "responses"] ["responses"] depth node
  let depth := depth - 1
  pure {
    id := ← optional anchors fields "operationId" (text? anchors)
    summary := ← optional anchors fields "summary" (text? anchors)
    description := ← optional anchors fields "description" (text? anchors)
    parameters := ← optional anchors fields "parameters"
      (listOf anchors depth (parameter? anchors (depth - 1)))
    requestBody := ← optional anchors fields "requestBody" (requestBody? anchors depth)
    responses := ← defaulted fields "responses" .empty
      (tableOf anchors depth (response? anchors (depth - 1))) }

/-- The operations on a route. -/
def pathItem? (anchors : Anchors) (depth : Nat) (node : Node) : Option PathItem := do
  let fields ← record? anchors ["get", "post", "put", "patch", "delete", "parameters"] [] depth node
  let depth := depth - 1
  pure {
    get := ← optional anchors fields "get" (operation? anchors depth)
    post := ← optional anchors fields "post" (operation? anchors depth)
    put := ← optional anchors fields "put" (operation? anchors depth)
    patch := ← optional anchors fields "patch" (operation? anchors depth)
    delete := ← optional anchors fields "delete" (operation? anchors depth)
    parameters := ← optional anchors fields "parameters"
      (listOf anchors depth (parameter? anchors (depth - 1))) }

/-- The components. -/
def components? (anchors : Anchors) (depth : Nat) (node : Node) : Option Components := do
  let fields ← record? anchors ["schemas", "responses", "requestBodies", "parameters"] [] depth node
  let depth := depth - 1
  pure {
    schemas := ← optional anchors fields "schemas"
      (tableOf anchors depth (schema? anchors (depth - 1)))
    responses := ← optional anchors fields "responses"
      (tableOf anchors depth (response? anchors (depth - 1)))
    requestBodies := ← optional anchors fields "requestBodies"
      (tableOf anchors depth (requestBody? anchors (depth - 1)))
    parameters := ← optional anchors fields "parameters"
      (tableOf anchors depth (parameter? anchors (depth - 1))) }

/-- What a document says about itself. -/
def info? (anchors : Anchors) (depth : Nat) (node : Node) : Option Info := do
  let fields ← record? anchors ["title", "version", "description"] [] depth node
  pure {
    title := ← optional anchors fields "title" (text? anchors)
    version := ← optional anchors fields "version" (text? anchors)
    description := ← optional anchors fields "description" (text? anchors) }

/-- A server, which must have an address. -/
def server? (anchors : Anchors) (depth : Nat) (node : Node) : Option Server := do
  let fields ← record? anchors ["url"] [] depth node
  pure { url := ← text? anchors (← fields.lookup "url") }

/-- A whole document. -/
def document? (anchors : Anchors) (depth : Nat) (node : Node) : Option Document := do
  let fields ← record? anchors ["info", "servers", "paths", "components"]
    ["servers", "paths"] depth node
  let depth := depth - 1
  pure {
    info := ← optional anchors fields "info" (info? anchors depth)
    servers := ← defaulted fields "servers" []
      (listOf anchors depth (server? anchors (depth - 1)))
    paths := ← defaulted fields "paths" .empty
      (tableOf anchors depth (pathItem? anchors (depth - 1)))
    components := ← optional anchors fields "components" (components? anchors depth) }

end ClientForge.Decode

namespace ClientForge

/-- The document that a text describes. -/
def Source.document? (source : Source) : Option Document :=
  Decode.document? source.anchors source.maxDepth source.root

/-- The schema that a text describes. -/
def Source.schema? (source : Source) : Option Schema :=
  Decode.schema? source.anchors source.maxDepth source.root

/-- The payloads by media type that a text describes. -/
def Source.content? (source : Source) : Option Content :=
  Decode.content? source.anchors source.maxDepth source.root

/-- The JSON value that a text describes. -/
def Source.json? (source : Source) : Option Json :=
  View.json? source.anchors source.maxDepth source.root

end ClientForge
