/-
  The endpoints of a document, none of its models displaced.

  The models of a document are built in two phases.  The first builds those of the components; the
  second goes through the operations and makes models for inline objects in parameters and payloads.
  The second starts from the names of the graph that the first has left, and threads the names taken
  through every parameter and payload, as building threads them through properties.

  So extraction is one more row of building steps, and all that was shown of steps holds of it: it
  hoists soundly (`Document.extract_hoists`), each operation by the steps for its parameters, its
  response and its request, one behind the other.

  What a type of an endpoint has to say is put down first, independent of names: a parameter has the
  type of its schema, or is a text without one (`ParamStands`); a payload has the type of its schema,
  unless it comes from a component that has a model of its own, and then it has that model's name
  (`PayloadStands`).

  `Extraction.DisplacesNothing` says for both phases together that no name that was handed out
  displaces a model, and that each leads to the model it was made for.  The merged graph is where both
  can be said: it holds the models made up in the first phase and those of the second, which took no
  name of the graph.
-/
import ClientForge.Proofs.Endpoints.Binding
import ClientForge.Proofs.Hoisting.Document

namespace ClientForge

/-! ## What an endpoint says of its operation -/

/-- The field is that of the parameter; a parameter without a schema is a text. -/
def Graph.ParamStands (graph : Graph) (entry : Parameter × Location) (field : Field) : Prop :=
  ∃ token, field = { Field.param entry.1.name token entry.2 entry.1.required with
      description := entry.1.description } ∧
    match entry.1.schema with
    | some schema => graph.Stands schema token
    | none => token = .primitive .string

/-- The type is that of a payload: none without a schema, that of the component that has it, or
the type of the schema. -/
def Graph.PayloadStands (graph : Graph) (content : Option Content) (component : Option String)
    (type : Option TypeToken) : Prop :=
  match (content.bind Content.json?).bind MediaType.schema with
  | none => type = none
  | some schema => ∃ token, type = some token ∧
    match if schema.isBareReference then none else component with
    | some key => token = .named (Naming.typeName key)
    | none => graph.Stands schema token

/-- The content of a response, and the component it comes from. -/
def responseSource (doc : Document) (response : Response) : Option Content × Option String :=
  match response.reference with
  | some reference =>
    match doc.responses.get? (Naming.referencedKey reference) with
    | some component => (component.content, some (Naming.referencedKey reference))
    | none => (none, none)
  | none => (response.content, none)

/-- The type is that of what a success gives. -/
def Graph.ResponseStands (graph : Graph) (doc : Document) (op : Operation)
    (type : Option TypeToken) : Prop :=
  match Extraction.success? op with
  | none => type = none
  | some (_, response) =>
    graph.PayloadStands (responseSource doc response).1 (responseSource doc response).2 type

/-- The payload is the one that the request takes. -/
def Graph.RequestStands (graph : Graph) (doc : Document) (op : Operation)
    (payload : Option Payload) : Prop :=
  match op.requestBody.bind (Extraction.bodySource? doc) with
  | none => payload = none
  | some (content, component, _) =>
    graph.PayloadStands content component (payload.map Payload.type)

/-- The types of the endpoint are those of the parameters and payloads of its operation. -/
structure Graph.EndpointStands (graph : Graph) (doc : Document) (item : PathItem)
    (op : Operation) (endpoint : Endpoint) : Prop where
  params : ∃ fields, List.Forall₂ graph.ParamStands (Extraction.parametersOf doc item op) fields ∧
    endpoint.pathParams = fields.filter (fun field => field.location == .path) ∧
    endpoint.queryParams = fields.filter (fun field => field.location == .query)
  response : graph.ResponseStands doc op endpoint.response
  request : graph.RequestStands doc op endpoint.request

namespace Extraction

/-! ## Parameters and payloads -/

/-- The type of a schema is one of the steps. -/
theorem bindSchema_hoists (preferred : String) (schema : Schema) (names : Names) :
    TypeHoists preferred schema names :=
  building_hoists.2.2.1 preferred schema names

/-- A parameter is bound as its schema is, under a name made of those of the endpoint and the
parameter. -/
theorem paramField_hoists (endpoint : String) (param : Parameter) (location : Location)
    (names : Names) :
    Hoists names (paramField endpoint param location names) fun graph =>
      graph.ParamStands (param, location) := by
  unfold paramField
  cases hschema : param.schema with
  | none =>
    refine Hoists.pure fun graph => ⟨.primitive .string, rfl, ?_⟩
    simp only [hschema]
  | some schema =>
    refine (bindSchema_hoists _ schema names).map fun graph h => ⟨_, rfl, ?_⟩
    simp only [hschema]
    exact h

/-- The parameters of an operation, one behind the other. -/
theorem paramFields_hoists (endpoint : String) (params : List (Parameter × Location))
    (names : Names) :
    Hoists names (paramFields endpoint params names) fun graph =>
      List.Forall₂ graph.ParamStands params := by
  induction params generalizing names with
  | nil => exact Hoists.pure fun graph => .nil
  | cons entry rest ih =>
    obtain ⟨param, location⟩ := entry
    have hfirst := paramField_hoists endpoint param location names
    exact hfirst.append (ih _) fun graph h₁ h₂ => .cons h₁ h₂

/-- A payload is bound as its schema is, unless a component has it. -/
theorem payloadType_hoists (doc : Document) (content : Option Content)
    (component : Option String) (surrogate : String) (names : Names) :
    Hoists names (payloadType doc content component surrogate names) fun graph result =>
      graph.PayloadStands content component (result.map Prod.fst) := by
  unfold payloadType Graph.PayloadStands
  cases hmedia : content.bind Content.json? with
  | none => exact Hoists.pure fun graph => rfl
  | some media => cases hschema : media.schema with
    | none =>
      simp only [Option.bind_some, hschema]
      exact Hoists.pure fun graph => rfl
    | some schema =>
      simp only [Option.bind_some, hschema]
      cases if schema.isBareReference then none else component with
      | some key => exact Hoists.pure fun graph => ⟨_, rfl, rfl⟩
      | none => exact (bindSchema_hoists surrogate schema names).map fun graph h => ⟨_, rfl, h⟩

/-- What a success gives, from wherever its content is. -/
theorem responseOf_hoists (doc : Document) (endpoint : String) (op : Operation) (names : Names) :
    Hoists names (responseOf doc endpoint op names) fun graph result =>
      graph.ResponseStands doc op (result.2.map Prod.fst) := by
  unfold responseOf Graph.ResponseStands
  cases success? op with
  | none => exact Hoists.pure fun graph => rfl
  | some found =>
    obtain ⟨status, response⟩ := found
    exact (payloadType_hoists doc (responseSource doc response).1 (responseSource doc response).2
      (endpoint ++ "RespObj") names).map fun graph h => h

/-- What a request takes, from wherever its content is. -/
theorem requestOf_hoists (doc : Document) (endpoint : String) (op : Operation) (names : Names) :
    Hoists names (requestOf doc endpoint op names) fun graph result =>
      graph.RequestStands doc op result := by
  unfold requestOf Graph.RequestStands
  cases op.requestBody.bind (bodySource? doc) with
  | none => exact Hoists.pure fun graph => rfl
  | some source =>
    obtain ⟨content, component, required⟩ := source
    refine (payloadType_hoists doc content component (endpoint ++ "ReqObj") names).map
      fun graph h => ?_
    dsimp only
    rw [Option.map_map]
    exact h

/-! ## Operations -/

/-- An operation: its parameters, then its response, then its request. -/
theorem endpointOf_hoists {doc : Document} {route : String} {item : PathItem} {method : Method}
    {op : Operation} {names : Names} {built : Built Endpoint}
    (h : endpointOf doc route item method op names = .ok built) :
    Hoists names built fun graph => graph.EndpointStands doc item op := by
  unfold endpointOf at h
  dsimp only at h
  split at h
  · cases h
  · cases h
    have hparams := paramFields_hoists (nameOf route method op) (parametersOf doc item op) names
    generalize paramFields (nameOf route method op) (parametersOf doc item op) names = params
      at hparams
    have hresponse := responseOf_hoists doc (nameOf route method op) op params.names
    generalize responseOf doc (nameOf route method op) op params.names = response at hresponse
    have hrequest := requestOf_hoists doc (nameOf route method op) op response.names
    -- what is known of the parameters and the response is kept aside until the request is known
    have hboth : Hoists names ⟨(), params.hoisted ++ response.hoisted, response.names⟩
        fun graph _ => List.Forall₂ graph.ParamStands (parametersOf doc item op) params.result ∧
          graph.ResponseStands doc op (response.result.2.map Prod.fst) :=
      hparams.append hresponse fun _ h₁ h₂ => ⟨h₁, h₂⟩
    refine hboth.append hrequest fun graph h₁ h₂ => ?_
    exact {
      params := ⟨params.result, h₁.1, rfl, rfl⟩
      response := h₁.2
      request := h₂ }

/-- **Extraction hoists soundly,** operation by operation. -/
theorem endpointsOf_hoists {doc : Document} {names : Names}
    {operations : List (String × PathItem × Method × Operation)} {built : Built (List Endpoint)}
    (h : endpointsOf doc operations names = .ok built) :
    Hoists names built fun graph => List.Forall₂
      (fun operation => graph.EndpointStands doc operation.2.1 operation.2.2.2) operations := by
  induction operations generalizing names built with
  | nil =>
    cases h
    exact Hoists.pure fun graph => .nil
  | cons operation rest ih =>
    obtain ⟨endpoint, others, hfirst, hrest, rfl⟩ := exists_of_endpointsOf_cons h
    exact (endpointOf_hoists hfirst).append (ih hrest) fun graph h₁ h₂ => .cons h₁ h₂

end Extraction

/-! ## Nothing is displaced -/

/-- A whole extraction, from the names of the graph that it is given. -/
theorem Document.extract_hoists {doc : Document} {routes : List String} {graph : Graph}
    {extraction : Extraction} (h : doc.extract routes graph = .ok extraction) :
    ∃ after, Hoists (.ofList graph.names) ⟨extraction.endpoints, extraction.synthesized, after⟩
      fun graph => List.Forall₂
        (fun operation => graph.EndpointStands doc operation.2.1 operation.2.2.2)
        (Extraction.visits doc routes) := by
  obtain ⟨built, hbuilt, rfl⟩ := Document.exists_built_of_extract h
  exact ⟨built.names, Extraction.endpointsOf_hoists hbuilt⟩

/-- The graph of a document with the models made for its endpoints. -/
def Document.mergedGraph (doc : Document) (extraction : Extraction) : Graph :=
  (Graph.ofDocument doc).insertAll extraction.synthesized

/-- What is in the merged graph is what was there and what was made for the endpoints. -/
theorem Document.get?_mergedGraph {doc : Document} {routes : List String} {extraction : Extraction}
    (h : doc.extract routes (Graph.ofDocument doc) = .ok extraction) {name : String}
    {model : Model} : (doc.mergedGraph extraction).get? name = some model ↔
      (Graph.ofDocument doc).get? name = some model ∨
        (model ∈ extraction.synthesized ∧ model.name = name) := by
  obtain ⟨after, hhoists⟩ := Document.extract_hoists h
  exact Graph.get?_insertAll_eq_some_iff hhoists.grows.distinct
    fun model hmem hname => hhoists.grows.fresh model hmem (Names.mem_ofList.2 hname)

/-- **The types of the endpoints** are those of their operations, in the merged graph. -/
theorem Document.endpoints_stand {doc : Document} {routes : List String} {extraction : Extraction}
    (h : doc.extract routes (Graph.ofDocument doc) = .ok extraction) :
    List.Forall₂ (fun operation => (doc.mergedGraph extraction).EndpointStands doc
      operation.2.1 operation.2.2.2) (Extraction.visits doc routes) extraction.endpoints := by
  obtain ⟨after, hhoists⟩ := Document.extract_hoists h
  exact hhoists.result _ fun model hmem => (get?_mergedGraph h).2 (Or.inr ⟨hmem, rfl⟩)

/-- No name that was handed out displaces a model, and each leads to the model it was made for. -/
structure Extraction.DisplacesNothing (doc : Document) (routes : List String)
    (extraction : Extraction) : Prop where
  /-- A made-up model of the document has no name that the document gives. -/
  resolved_fresh : ∀ model ∈ madeUp doc.builtModels, ∀ other ∈ doc.builtModels,
    other.generated = false → model.name ≠ other.name
  resolved_distinct : ((madeUp doc.builtModels).map Model.name).Nodup
  /-- Putting the models into the graph drops no made-up one. -/
  resolved_stored : (Graph.ofDocument doc).Stores (madeUp doc.builtModels)
  synthesized_fresh : ∀ model ∈ extraction.synthesized, model.name ∉ (Graph.ofDocument doc).names
  synthesized_distinct : (extraction.synthesized.map Model.name).Nodup
  /-- What is in the merged graph is what was there and what was made for the endpoints. -/
  merged : ∀ name model, (doc.mergedGraph extraction).get? name = some model ↔
    (Graph.ofDocument doc).get? name = some model ∨
      (model ∈ extraction.synthesized ∧ model.name = name)
  /-- Every name inside the models of the document leads to the model built of its schema. -/
  models : ∀ entry ∈ doc.namedSchemas, ∃ model ∈ doc.builtModels,
    (doc.mergedGraph extraction).Describes entry.1 false entry.2 model
  /-- Every name in the types of the endpoints leads to the model built of its schema. -/
  endpoints : List.Forall₂ (fun operation => (doc.mergedGraph extraction).EndpointStands doc
    operation.2.1 operation.2.2.2) (Extraction.visits doc routes) extraction.endpoints

/-- **No model is displaced or lost** in a document whose endpoints could be extracted. -/
theorem Document.extract_displaces_nothing {doc : Document} {routes : List String}
    {extraction : Extraction} (h : doc.extract routes (Graph.ofDocument doc) = .ok extraction) :
    extraction.DisplacesNothing doc routes := by
  obtain ⟨hdistinct, hfresh, hstored⟩ := doc.madeUp_builtModels
  obtain ⟨after, hhoists⟩ := Document.extract_hoists h
  have hgrows := hhoists.grows
  have hnew : ∀ model ∈ extraction.synthesized, model.name ∉ (Graph.ofDocument doc).names :=
    fun model hmem hname => hgrows.fresh model hmem (Names.mem_ofList.2 hname)
  have hmerged : ∀ name model, (doc.mergedGraph extraction).get? name = some model ↔
      (Graph.ofDocument doc).get? name = some model ∨
        (model ∈ extraction.synthesized ∧ model.name = name) :=
    fun name model => Graph.get?_insertAll_eq_some_iff hgrows.distinct hnew
  -- the merged graph holds the models made up in both phases, so both descriptions hold of it
  have hresolved : (doc.mergedGraph extraction).Stores (madeUp doc.builtModels) :=
    fun model hmem => (hmerged _ _).2 (Or.inl (hstored model hmem))
  have hsynthesized : (doc.mergedGraph extraction).Stores extraction.synthesized :=
    fun model hmem => (hmerged _ _).2 (Or.inr ⟨hmem, rfl⟩)
  exact {
    resolved_fresh := by
      intro model hmem other hother hgenerated heq
      apply hfresh model hmem
      rw [heq]
      exact name_mem_of_not_generated hother hgenerated
    resolved_distinct := hdistinct
    resolved_stored := hstored
    synthesized_fresh := hnew
    synthesized_distinct := hgrows.distinct
    merged := hmerged
    models := fun entry hmem => doc.exists_describes hresolved hmem
    endpoints := hhoists.result _ hsynthesized }

/-! ## A document whose names collide -/

/-- An object with a text. -/
def labelSchema : Schema where
  type := some (.single "object")
  properties := some [("label", { type := some (.single "string") })]

/-- A shop: the models made up for a property, for a parameter and for a response all wish for
names, and two of the wishes are names of the document's. -/
def shopDocument : Document where
  paths := .ofList [("/items", { get := some {
    id := some "fetch"
    parameters := some [{ name := "filter", location := "query", schema := some labelSchema }]
    responses := .ofList [("200",
      { content := some (.ofList [("application/json", { schema := some labelSchema })]) })] } })]
  components := some { schemas := some (.ofList [
    ("FetchRespObj", labelSchema),
    ("Item", { type := some (.single "object"), properties := some [("tag", labelSchema)] }),
    ("ItemTag", { type := some (.single "string") })]) }

/-- The names collide, so the made-up ones are numbered, and nothing is displaced. -/
theorem Document.extract_displaces_nothing_shop :
    ∃ extraction, shopDocument.extract [] (Graph.ofDocument shopDocument) = .ok extraction ∧
      extraction.DisplacesNothing shopDocument [] := by
  have hok : (shopDocument.extract [] (Graph.ofDocument shopDocument)).isOk = true := by
    decide +kernel
  obtain ⟨extraction, h⟩ := exists_of_isOk hok
  exact ⟨extraction, h, Document.extract_displaces_nothing h⟩

end ClientForge
