/-
  The whole crate: from a document to its files.

  The models are resolved, the endpoints extracted, the graph pruned to what the endpoints need,
  and everything is rendered.  The files of the templates come last and may replace generated
  ones.  Either every step succeeds or there are no files at all.
-/
import ClientForge.Code.Printer
import ClientForge.Endpoint.Pruning
import ClientForge.Failure
import ClientForge.Files.FileSet
import ClientForge.Sdk.Client
import ClientForge.Sdk.Fixture
import ClientForge.Sdk.Models
import ClientForge.Sdk.Tests
import ClientForge.Template.Set

namespace ClientForge.Sdk

/-- The endpoints of a run with the models that they need. -/
structure Surface where
  endpoints : List Endpoint
  models : Graph

/-- The endpoints of a document on the routes listed, with the models that they need. -/
def surface (doc : Document) (routes : List String) : Except UnboundPlaceholder Surface :=
  let resolved := Graph.ofDocument doc
  (doc.extract routes resolved).map fun extraction =>
    ⟨extraction.endpoints,
      (resolved.insertAll extraction.synthesized).prune extraction.endpoints⟩

/-- The files made from the surface of a document. -/
def sources (config : Config) (surface : Surface) : List (String × String) := [
  ("src/models.rs", (modelsModule surface.models).toText),
  ("src/client.rs", (clientModule surface.models surface.endpoints).toText),
  ("src/mock.rs", (mockModule (fixtures config surface.endpoints)).toText),
  ("src/sdk_test.rs", (testsModule surface.models config surface.endpoints).toText)]

/-- What a document puts into templates. -/
def templateValues (doc : Document) (config : Config) (baseUrl : String) : Template.Values where
  packageName := config.packageName
  baseUrl := baseUrl
  baseUrlLiteral := Code.escapedText baseUrl
  title := doc.title
  version := doc.version

/-- The files of the crate for a document. -/
def generate (doc : Document) (config : Config) (templates : List (String × String)) :
    Except Failure FileSet :=
  match doc.baseUrl? with
  | none => .error .missingServer
  | some baseUrl => match surface doc config.routes with
    | .error cause => .error (.unboundPlaceholder cause)
    | .ok surface => match Template.renderSet? (templateValues doc config baseUrl) templates with
      | none => .error .template
      | some rendered => .ok ((FileSet.ofList (sources config surface)).insertAll rendered)

end ClientForge.Sdk
