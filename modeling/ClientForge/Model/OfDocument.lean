/-
  The models of a document's components.

  Schemas come first, then the payloads of responses and of request bodies; each kind is walked in
  key order.  All their names are taken before the first model is built, so a name made up on the
  way never displaces one of the document's.  Of two components with one name the first counts.
-/
import ClientForge.Model.Graph
import ClientForge.Model.OfSchema

namespace ClientForge

/-- The schema of a payload that gets a model of its own; a bare reference gets none. -/
def payloadSchema? (content : Option Content) : Option Schema :=
  ((content.bind Content.json?).bind MediaType.schema).filter fun schema => !schema.isBareReference

namespace Document

/-- The schemas that get a model, each with the name it asks for. -/
def namedSchemas (doc : Document) : List (String × Schema) :=
  doc.schemas.entries.map (fun (key, schema) => (Naming.typeName key, schema))
    ++ doc.responses.entries.filterMap (fun (key, response) =>
      (payloadSchema? response.content).map fun schema => (Naming.typeName key, schema))
    ++ doc.requestBodies.entries.filterMap (fun (key, body) =>
      (payloadSchema? body.content).map fun schema => (Naming.typeName key, schema))

end Document

/-- The models of named schemas, one after the other. -/
def buildModels (names : Names) : List (String × Schema) → List Model
  | [] => []
  | (name, schema) :: rest =>
    let built := buildModel name false schema names
    built.result :: built.hoisted ++ buildModels built.names rest

/-- The models of a document. -/
def Graph.ofDocument (doc : Document) : Graph :=
  let named := doc.namedSchemas
  (buildModels (.ofList (named.map Prod.fst)) named).foldl Graph.insertNew .empty

end ClientForge
