/-
  What is said while a crate is made.

  Each step says that it is done; warnings tell where the crate is poorer than the document: a
  name defined twice, a type or an argument whose model is unknown, a member whose name has no
  letters, a template in place of a generated file.
-/
import ClientForge.Log.Extraction
import ClientForge.Sdk.Generate

namespace ClientForge.Log

/-! ## Models -/

/-- Said while components become models. -/
def resolutionNotices (doc : Document) : List Notice :=
  let names := doc.namedSchemas.map Prod.fst
  if doc.components.isNone then []
  else (if View.hasRepeat names then [⟨.resolution, .warn⟩] else []) ++ [⟨.resolution, .debug⟩]

/-! ## Code -/

/-- The types that the code of a model spells out. -/
def spelledTypes (model : Model) : List TypeToken :=
  match model.shape with
  | .struct => model.fields.values.map Field.type
  | .plainAlias | .enumAlias => model.aliasOf.toList
  | .composition | .empty => []

/-- Whether a type mentions a model that there is not. -/
def isDangling (graph : Graph) (token : TypeToken) : Bool :=
  token.innermost?.any fun name => !graph.contains name

/-- Whether a member has a name without letters and digits. -/
def isNameless (field : Field) : Bool :=
  match Naming.fieldIdent field.key with
  | .ok _ => false
  | .error _ => true

/-- The members whose identifiers the code of a model spells out. -/
def spelledFields (model : Model) : List Field :=
  if model.shape == .struct then model.fields.values else []

/-- Said while the code of models and methods is written. -/
def codeNotices (surface : Sdk.Surface) : List Notice :=
  let models := surface.models.toList
  let types := models.flatMap spelledTypes ++ surface.endpoints.flatMap Endpoint.types
  let fields := models.flatMap spelledFields ++ surface.endpoints.flatMap Endpoint.params
  if types.any (isDangling surface.models) || fields.any isNameless then [⟨.code, .warn⟩] else []

/-! ## Fixtures and tests -/

/-- Said while fixtures are gathered. -/
def fixtureNotices (config : Config) (endpoints : List Endpoint) : List Notice :=
  if endpoints.any fun e => config.skips e.route || (config.payload? e.route e.method).isSome then
    [⟨.fixtures, .debug⟩]
  else []

/-- The type of the items of a list of lists. -/
def innerItem : TypeToken → TypeToken
  | .array item => innerItem item
  | token => token

/-- Whether the argument for a parameter is of a model that there is not. -/
def hasUnknownModel (graph : Graph) (field : Field) : Bool :=
  match innerItem field.type with
  | .named name => !graph.contains name
  | _ => false

/-- Said while tests are written. -/
def testNotices (config : Config) (surface : Sdk.Surface) : List Notice :=
  let tested := surface.endpoints.filter fun e => !config.skips e.route
  if (tested.flatMap Endpoint.params).any (hasUnknownModel surface.models) then
    [⟨.fixtures, .warn⟩]
  else []

/-! ## Templates -/

/-- Said while templates are rendered, up to the first that cannot be. -/
def templateNotices (context : Template.Context) : List (String × String) → List Notice
  | [] => []
  | entry :: rest =>
    let own : List Notice :=
      if (Text.dropEnd? Template.ending.toList entry.1.toList).isSome then [⟨.templates, .debug⟩]
      else []
    if (Template.rendered? context entry).isSome then own ++ templateNotices context rest else own

/-- Said when the files of templates join the generated ones. -/
def overrideNotices (generated rendered : List (String × String)) : List Notice :=
  if rendered.any fun file => generated.any fun own => Path.same own.1 file.1 then
    [⟨.generation, .warn⟩]
  else []

/-! ## The whole -/

/-- Said from the surface of a document on. -/
def surfaceNotices (config : Config) (surface : Sdk.Surface) (values : Template.Values)
    (templates : List (String × String)) : List Notice :=
  [⟨.pruning, .info⟩] ++ fixtureNotices config surface.endpoints ++ [⟨.generation, .debug⟩]
    ++ codeNotices surface ++ testNotices config surface
    ++ templateNotices values.context (Template.sortEntries templates)
    ++ overrideNotices (Sdk.sources config surface)
      ((Template.renderSet? values templates).getD [])

/-- Said while the crate for a document is made. -/
def generationNotices (doc : Document) (config : Config) (templates : List (String × String)) :
    List Notice :=
  match doc.baseUrl? with
  | none => []
  | some baseUrl =>
    [⟨.generation, .info⟩] ++ resolutionNotices doc ++ extractionNotices doc config.routes
      ++ match Sdk.surface doc config.routes with
        | .error _ => []
        | .ok surface =>
          surfaceNotices config surface (Sdk.templateValues doc config baseUrl) templates

end ClientForge.Log
