/-
  A run leaves no name without a model.

  Types of the generated code that have no model fall back to any value, silently.  For a document that
  keeps its promises this should not happen, and the promise it has to keep is that its references,
  however deep inside a schema, lead to schemas among its components (`RefersToSchemas`).

  1. **Known names.**  Such a document gives every name that its references mention, and the graph of a
     run holds a model made of a schema under each of them (`founded_of_givesName`).
  2. **Endpoints.**  The types of an endpoint mention a name that a reference gave, that of a component
     with a payload, or one that was handed out for an inline object; each leads to a model made of a
     schema (`EndpointStands.leads`).
  3. **Needed names.**  One step from a model made of a schema ends at such a name again, so by
     induction along what is needed every needed name has a model (`founded_of_needed`).
  4. **The surface.**  Pruning keeps the needed names with their models, and so no type of an endpoint or
     of a kept model falls back (`Surface.Closed`, `surface_closed`).

  The fourth point is put in terms of what is emitted: the type of a token is the one that it has where
  every model has a type of its own (`ownType`).
-/
import ClientForge.Proofs.Hoisting.Founded
import ClientForge.Proofs.Hoisting.Origin
import ClientForge.Proofs.Pruning.Needed
import ClientForge.Sdk.Generate

namespace ClientForge

/-! ## The names that a document gives -/

/-- The model of a schema has the name that it is built with. -/
theorem Graph.Describes.name_eq {graph : Graph} {name : String} {generated : Bool} {schema : Schema}
    {model : Model} (h : graph.Describes name generated schema model) : model.name = name := by
  cases h <;> rfl

namespace Document

variable {doc : Document} {routes : List String} {extraction : Extraction}

/-- **A name that the document gives has a model made of a schema of the document,** in a graph
that holds what the document's own graph holds. -/
theorem founded_of_givesName {graph : Graph} (hrefs : doc.RefersToSchemas)
    (hextends : ∀ name model, (Graph.ofDocument doc).get? name = some model →
      graph.get? name = some model)
    {name : String} (h : doc.GivesName name) :
    ∃ model, graph.get? name = some model ∧ graph.Founded doc.GivesName model := by
  obtain ⟨-, hfresh, hstored⟩ := doc.madeUp_builtModels
  have hmade : graph.Stores (madeUp doc.builtModels) :=
    fun model hmem => hextends _ _ (hstored model hmem)
  obtain ⟨entry, hentry, rfl⟩ := List.mem_map.1 h
  obtain ⟨model, hmodel, hdescribes⟩ := doc.exists_describes hmade hentry
  obtain ⟨found, hfound⟩ : ∃ found, (Graph.ofDocument doc).get? entry.1 = some found := by
    rw [get?_ofDocument]
    refine Option.isSome_iff_exists.1 (List.find?_isSome.2 ⟨model, hmodel, ?_⟩)
    exact decide_eq_true hdescribes.name_eq
  have hname := Graph.name_of_get? hfound
  have hbuilt : found ∈ doc.builtModels := by
    rw [get?_ofDocument] at hfound
    exact List.mem_of_find?_eq_some hfound
  -- the model found may be that of another schema of that name, but it is not a made-up one
  have hgenerated : found.generated = false := by
    refine Bool.eq_false_iff.2 fun htrue => hfresh found (List.mem_filter.2 ⟨hbuilt, htrue⟩) ?_
    rw [hname]
    exact h
  obtain ⟨schema, hschema, hdescribes⟩ := describes_of_not_generated hmade hbuilt hgenerated
  exact ⟨found, hextends _ _ hfound,
    .described hdescribes fun target => hrefs.givesName (outer_of_namedSchema hschema)⟩

end Document

/-! ## The names in the types of endpoints -/

namespace Graph

variable {graph : Graph} {doc : Document} {item : PathItem} {method : Method} {op : Operation}
  {target : String}

/-- What the type of a parameter mentions leads to a model. -/
theorem ParamStands.leads {entry : Parameter × Location} {field : Field}
    (h : graph.ParamStands entry field) (hrefs : doc.RefersToSchemas)
    (houter : ∀ schema, entry.1.schema = some schema → schema ∈ doc.outerSchemas)
    (hm : field.type.Mentions target) : graph.Leads doc.GivesName target := by
  obtain ⟨token, rfl, h⟩ := h
  change token.Mentions target at hm
  split at h
  · rename_i schema hschema
    exact h.leads (fun name => hrefs.givesName (houter schema hschema)) hm
  · cases h
    cases hm

/-- A payload of a component leads to the model of the component, any other one to what its schema
mentions. -/
theorem PayloadStands.leads {content : Option Content} {component : Option String}
    {type : Option TypeToken} {token : TypeToken} (h : graph.PayloadStands content component type)
    (hrefs : doc.RefersToSchemas)
    (houter : ∀ schema ∈ payloadSchemas content, schema ∈ doc.outerSchemas)
    (hnamed : ∀ key schema, component = some key → payloadSchema? content = some schema →
      doc.GivesName (Naming.typeName key))
    (htype : type = some token) (hm : token.Mentions target) :
    graph.Leads doc.GivesName target := by
  unfold PayloadStands at h
  split at h
  · rw [htype] at h
    cases h
  · rename_i schema hschema
    -- The payload has one schema, and the token asked about is the one found for it.
    obtain ⟨found, hfound, h⟩ := h
    obtain rfl : token = found := Option.some.inj (htype.symm.trans hfound)
    -- A component's inline payload is typed by the component's name; a bare reference is not.
    split at h
    · rename_i key hkey
      subst h
      cases hm
      split at hkey
      · cases hkey
      · rename_i hbare
        refine Or.inl (hnamed key schema hkey ?_)
        rw [payloadSchema?, hschema, Option.filter_some, if_pos (by simp [hbare])]
    · exact h.leads (fun name => hrefs.givesName (houter schema (mem_payloadSchemas hschema))) hm

/-- What the type of a response mentions leads to a model. -/
theorem ResponseStands.leads {type : Option TypeToken} {token : TypeToken}
    (h : graph.ResponseStands doc op type) (hrefs : doc.RefersToSchemas)
    (houter : ∀ schema ∈ op.schemas, schema ∈ doc.outerSchemas) (htype : type = some token)
    (hm : token.Mentions target) : graph.Leads doc.GivesName target := by
  unfold ResponseStands at h
  split at h
  · rw [htype] at h
    cases h
  · rename_i status response hsuccess
    refine h.leads hrefs (fun schema => Document.outer_of_responseSource houter hsuccess)
      (fun key schema hkey hs => ?_) htype hm
    unfold responseSource at hkey hs
    split at hkey
    · rename_i reference href
      rw [href] at hs
      dsimp only at hs
      split at hkey
      · rename_i component hcomponent
        cases hkey
        rw [hcomponent] at hs
        exact List.mem_map_of_mem (Document.mem_namedSchemas_of_response hcomponent hs)
      · cases hkey
    · cases hkey

/-- What the type of a request mentions leads to a model. -/
theorem RequestStands.leads {payload : Option Payload} {found : Payload}
    (h : graph.RequestStands doc op payload) (hrefs : doc.RefersToSchemas)
    (houter : ∀ schema ∈ op.schemas, schema ∈ doc.outerSchemas) (hpayload : payload = some found)
    (hm : found.type.Mentions target) : graph.Leads doc.GivesName target := by
  have htype : payload.map Payload.type = some found.type := by rw [hpayload]; rfl
  unfold RequestStands at h
  split at h
  · rw [hpayload] at h
    cases h
  · rename_i content component required hsource
    refine h.leads hrefs (fun schema => Document.outer_of_bodySource houter hsource)
      (fun key schema hkey hs => ?_) htype hm
    obtain ⟨body, -, hsource⟩ := Option.bind_eq_some_iff.1 hsource
    unfold Extraction.bodySource? at hsource
    split at hsource
    · obtain ⟨stored, hstored, heq⟩ := Option.map_eq_some_iff.1 hsource
      cases heq
      cases hkey
      exact List.mem_map_of_mem (Document.mem_namedSchemas_of_requestBody hstored hs)
    · cases hsource
      cases hkey

/-- **What an endpoint mentions** is known or leads to a model made of a schema. -/
theorem EndpointStands.leads {endpoint : Endpoint} (h : graph.EndpointStands doc item op endpoint)
    (hrefs : doc.RefersToSchemas) (hitem : item ∈ doc.paths.values)
    (hop : item.operation? method = some op) (hm : endpoint.Mentions target) :
    graph.Leads doc.GivesName target := by
  have houter : ∀ schema ∈ op.schemas, schema ∈ doc.outerSchemas :=
    fun schema => Document.outer_of_operation hitem hop
  cases hm with
  | response token hr hm => exact h.response.leads hrefs houter hr hm
  | request payload hr hm => exact h.request.leads hrefs houter hr hm
  | param field hp hm =>
    obtain ⟨fields, hall, hpath, hquery⟩ := h.params
    have hfield : field ∈ fields := by
      rcases List.mem_append.1 hp with hp | hp
      · rw [hpath] at hp
        exact (List.mem_filter.1 hp).1
      · rw [hquery] at hp
        exact (List.mem_filter.1 hp).1
    obtain ⟨entry, hentry, hstands⟩ := exists_of_forall₂_mem hall hfield
    exact hstands.leads hrefs (fun schema => Document.outer_of_parametersOf hitem hop hentry) hm

end Graph

/-! ## Every needed name has a model -/

namespace Document

variable {doc : Document} {routes : List String} {extraction : Extraction}

/-- **Whatever a run needs has a model made of a schema:** a name that an endpoint mentions has
one, and from a needed model that is made of a schema each step ends at such a model again. -/
theorem founded_of_needed (hrefs : doc.RefersToSchemas)
    (h : doc.extract routes (Graph.ofDocument doc) = .ok extraction) {name : String}
    (hneeded : Needed (doc.mergedGraph extraction) extraction.endpoints name) :
    ∃ model, (doc.mergedGraph extraction).get? name = some model ∧
      (doc.mergedGraph extraction).Founded doc.GivesName model := by
  have hendpoints := Document.endpoints_stand h
  have hleads : ∀ name, (doc.mergedGraph extraction).Leads doc.GivesName name →
      ∃ model, (doc.mergedGraph extraction).get? name = some model ∧
        (doc.mergedGraph extraction).Founded doc.GivesName model := by
    rintro name (hgiven | hfounded)
    · exact founded_of_givesName hrefs (fun name model hget => (get?_mergedGraph h).2 (Or.inl hget))
        hgiven
    · exact hfounded
  induction hneeded with
  | mentioned endpoint he hm =>
    obtain ⟨⟨route, item, method, op⟩, hvisit, hstands⟩ := exists_of_forall₂_mem hendpoints he
    obtain ⟨-, hitem, hop⟩ := Extraction.mem_visits.1 hvisit
    exact hleads _ (hstands.leads hrefs (Table.mem_values_of_get? hitem) hop hm)
  | referred howner hmodel hr ih =>
    obtain ⟨model, hmodel', hfounded⟩ := ih
    obtain rfl := Option.some.inj (hmodel'.symm.trans hmodel)
    exact hleads _ (hfounded.leads hr)

end Document

/-! ## The surface is closed -/

namespace Sdk

open ClientForge.Code

/-- The type of a token where every model has a type of its own. -/
def ownType : TypeToken → Ty
  | .primitive p => .path p.rustName
  | .named name => .path name
  | .array item => .vec (ownType item)
  | .map value => .map (ownType value)
  | .any => .anyValue

/-- A token whose names have models has the type it should. -/
theorem typeOf_eq_ownType {graph : Graph} {token : TypeToken}
    (h : ∀ name, token.Mentions name → graph.contains name = true) :
    typeOf graph token = ownType token := by
  induction token with
  | primitive p => rfl
  | named name =>
    have hname := h name (.named name)
    rw [typeOf, if_pos hname]
    rfl
  | array item ih => rw [typeOf, ih fun name hm => h name (.array hm), ownType]
  | map value ih => rw [typeOf, ih fun name hm => h name (.map hm), ownType]
  | any => rfl

/-- The types that a model declares: those of its fields, and the one it is another name for. -/
def declared (model : Model) : List TypeToken :=
  model.fields.values.map Field.type ++ model.aliasOf.toList

/-- Every name on the surface of a run has a model there. -/
structure Surface.Closed (surface : Surface) : Prop where
  endpoints : ∀ endpoint ∈ surface.endpoints, ∀ name, endpoint.Mentions name →
    surface.models.contains name = true
  models : ∀ model ∈ surface.models.toList, ∀ name, model.RefersTo name →
    surface.models.contains name = true
  /-- So no type stands for any value because a model is missing. -/
  endpointTypes : ∀ endpoint ∈ surface.endpoints, ∀ token ∈ endpoint.types,
    typeOf surface.models token = ownType token
  modelTypes : ∀ model ∈ surface.models.toList, ∀ token ∈ declared model,
    typeOf surface.models token = ownType token

/-- The surface of a run is what was extracted, with the models that it needs. -/
theorem exists_of_surface {doc : Document} {routes : List String} {surface : Surface}
    (h : Sdk.surface doc routes = .ok surface) :
    ∃ extraction, doc.extract routes (Graph.ofDocument doc) = .ok extraction ∧
      surface = ⟨extraction.endpoints,
        (doc.mergedGraph extraction).prune extraction.endpoints⟩ := by
  unfold Sdk.surface at h
  dsimp only at h
  cases hextract : doc.extract routes (Graph.ofDocument doc) with
  | error cause =>
    rw [hextract] at h
    cases h
  | ok extraction =>
    rw [hextract] at h
    cases h
    exact ⟨extraction, rfl, rfl⟩

/-- Types fall back nowhere if the names that they mention have models. -/
theorem Surface.Closed.of_names {surface : Surface}
    (hendpoints : ∀ endpoint ∈ surface.endpoints, ∀ name, endpoint.Mentions name →
      surface.models.contains name = true)
    (hmodels : ∀ model ∈ surface.models.toList, ∀ name, model.RefersTo name →
      surface.models.contains name = true) : surface.Closed where
  endpoints := hendpoints
  models := hmodels
  endpointTypes := by
    intro endpoint he token ht
    exact typeOf_eq_ownType fun name hm =>
      hendpoints endpoint he name (Endpoint.mem_types.1 ⟨token, ht, hm⟩)
  modelTypes := by
    intro model hmem token ht
    refine typeOf_eq_ownType fun name hm => hmodels model hmem name ?_
    rcases List.mem_append.1 ht with ht | ht
    · obtain ⟨field, hfield, rfl⟩ := List.mem_map.1 ht
      exact .field field hfield hm
    · exact .viaAlias token (Option.mem_toList.1 ht) hm

/-- **The surface of a document is closed,** if the references of the document lead to its
schemas. -/
theorem surface_closed {doc : Document} {routes : List String} {surface : Surface}
    (hrefs : doc.RefersToSchemas) (h : Sdk.surface doc routes = .ok surface) : surface.Closed := by
  obtain ⟨extraction, hextract, rfl⟩ := exists_of_surface h
  -- pruning keeps what is needed, and what is needed is there
  have hkept : ∀ name, Needed (doc.mergedGraph extraction) extraction.endpoints name →
      ((doc.mergedGraph extraction).prune extraction.endpoints).contains name = true := by
    intro name hneeded
    obtain ⟨model, hmodel, -⟩ := Document.founded_of_needed hrefs hextract hneeded
    exact Graph.contains_iff.2 ⟨model, Graph.get?_prune_eq_some_iff.2 ⟨hmodel, hneeded⟩⟩
  refine .of_names (fun endpoint he name hm => ?_) (fun model hmem name hr => ?_)
  · exact hkept name (.mentioned endpoint he hm)
  · obtain ⟨hmodel, hneeded⟩ := Graph.mem_toList_prune.1 hmem
    exact hkept name (.referred hneeded (Graph.mem_toList.1 hmodel) hr)

/-! ## A document with references -/

/-- A reference to the schema with that key. -/
def schemaReference (key : String) : Schema :=
  { reference := some ("#/components/schemas/" ++ key) }

/-- Shelves that hold books: a book is by an author, and a route gives a page of books. -/
def libraryDocument : Document where
  paths := .ofList [("/books", { get := some {
    id := some "list"
    responses := .ofList [("200", { content := some (.ofList [("application/json",
      { schema := some { properties := some [
        ("books", { type := some (.single "array"), items := some (schemaReference "Book") })] } })
      ]) })] } })]
  components := some { schemas := some (.ofList [
    ("Author", { type := some (.single "string") }),
    ("Book", { properties := some [("author", schemaReference "Author")] })]) }

/-- All references of the document lead to its schemas. -/
theorem libraryDocument_refersToSchemas : libraryDocument.RefersToSchemas := by
  -- The three schemas outside the components, written out: two of them hold one reference each.
  have houter : libraryDocument.outerSchemas = [{ type := some (.single "string") },
      { properties := some [("author", schemaReference "Author")] },
      { properties := some [("books",
        { type := some (.single "array"), items := some (schemaReference "Book") })] }] := rfl
  -- A reference holds nothing further, so its own text is the only one to be checked.
  have hreference : ∀ (key : String) (inner : Schema), libraryDocument.schemas.contains
      (Naming.referencedKey ("#/components/schemas/" ++ key)) = true →
      inner.Within (schemaReference key) → ∀ reference, inner.reference = some reference →
      libraryDocument.schemas.contains (Naming.referencedKey reference) = true := by
    intro key inner hkey hin reference href
    rcases Schema.within_iff.1 hin with rfl | ⟨part, hpart, hin⟩
    · cases href
      exact hkey
    · cases hpart
  intro schema hmem inner hin reference href
  rw [houter] at hmem
  simp only [List.mem_cons, List.not_mem_nil, or_false] at hmem
  rcases Schema.within_iff.1 hin with rfl | ⟨part, hpart, hin⟩
  · rcases hmem with rfl | rfl | rfl <;> cases href
  · rcases hmem with rfl | rfl | rfl
    · cases hpart
    · obtain rfl := List.mem_singleton.1 hpart
      exact hreference _ _ (by decide +kernel) hin reference href
    · obtain rfl := List.mem_singleton.1 hpart
      rcases Schema.within_iff.1 hin with rfl | ⟨part, hpart, hin⟩
      · cases href
      · obtain rfl := List.mem_singleton.1 hpart
        exact hreference _ _ (by decide +kernel) hin reference href

/-- So its surface is closed. -/
theorem surface_closed_library :
    ∃ surface, Sdk.surface libraryDocument [] = .ok surface ∧ surface.Closed := by
  have hok : (libraryDocument.extract [] (Graph.ofDocument libraryDocument)).isOk = true := by
    decide +kernel
  cases h : libraryDocument.extract [] (Graph.ofDocument libraryDocument) with
  | error cause =>
    rw [h] at hok
    cases hok
  | ok extraction =>
    have hsurface : Sdk.surface libraryDocument [] = .ok ⟨extraction.endpoints,
        (libraryDocument.mergedGraph extraction).prune extraction.endpoints⟩ := by
      unfold Sdk.surface
      dsimp only
      rw [h]
      rfl
    exact ⟨_, hsurface, surface_closed libraryDocument_refersToSchemas hsurface⟩

end Sdk

end ClientForge
