/-
  Which component a name leads to.

  Several components may ask for one name: different keys can give the same type name, and a schema, a
  response and a request body can share a key.  All these names are taken before the first model is
  built, and of two definitions the first stays.  So a name leads to the model of the foremost
  component that asks for it — schemas before responses before request bodies, and among themselves in
  the order of their keys — and no made-up model comes in between (`defines_foremost`).

  A reference is typed by that name, whichever component it means: nothing in a type says of what kind
  the component was.  What a document may count on is therefore this (`KeepsDefinitions`).  A reference
  to a component that has a model is typed by the component's name, and that name leads to a model of
  the foremost component; it is the component's own if it is the foremost one, and otherwise it is not
  (`Typed`).

  The last section has the smallest document where the second case occurs: a schema and a response
  with one key and with different payloads.  A reference to the response is typed by the schema, and
  what the response says is in no model at all.
-/
import ClientForge.Proofs.Document.References
import ClientForge.Proofs.Hoisting.Endpoints

namespace ClientForge

/-! ## The models of a row, one place looked at -/

/-- The names taken once the schemas of a row have their models. -/
def namesAfter (names : Names) : List (String × Schema) → Names
  | [] => names
  | (name, schema) :: rest => namesAfter (buildModel name false schema names).names rest

/-- The models of two rows are those of the first and then those of the second, with the names taken
that the first leaves. -/
theorem buildModels_append (names : Names) (first second : List (String × Schema)) :
    buildModels names (first ++ second) =
      buildModels names first ++ buildModels (namesAfter names first) second := by
  induction first generalizing names with
  | nil => rfl
  | cons entry rest ih =>
    obtain ⟨name, schema⟩ := entry
    simp only [List.cons_append, buildModels, namesAfter, ih, List.append_assoc]

namespace Document

/-! ## The foremost component of a name -/

/-- The names that the document gives, all taken before the first model is built. -/
def givenNames (doc : Document) : Names := .ofList (doc.namedSchemas.map Prod.fst)

/-- The schema of the first component that asks for the name: schemas go before responses, and
these before request bodies. -/
def foremost? (doc : Document) (name : String) : Option Schema :=
  (doc.namedSchemas.find? fun entry => entry.1 == name).map Prod.snd

/-- `doc.Defines name schema` — the graph of the document holds, under the name, the model built of
the schema when its turn came, and what that model mentions is what the schema says. -/
structure Defines (doc : Document) (name : String) (schema : Schema) : Prop where
  built : ∃ before after, doc.namedSchemas = before ++ (name, schema) :: after ∧
    (Graph.ofDocument doc).get? name =
      some (buildModel name false schema (namesAfter doc.givenNames before)).result
  describes : ∀ model, (Graph.ofDocument doc).get? name = some model →
    (Graph.ofDocument doc).Describes name false schema model

variable {doc : Document} {name : String} {schema : Schema}

/-- The foremost component of a name stands somewhere in the row, and nothing before it asks for the
name. -/
theorem foremost?_eq_some_iff : doc.foremost? name = some schema ↔
    ∃ before after, doc.namedSchemas = before ++ (name, schema) :: after ∧
      name ∉ before.map Prod.fst := by
  unfold foremost?
  rw [Option.map_eq_some_iff]
  constructor
  · rintro ⟨entry, hfind, rfl⟩
    obtain ⟨hname, before, after, hsplit, hbefore⟩ := List.find?_eq_some_iff_append.1 hfind
    obtain rfl := eq_of_beq hname
    refine ⟨before, after, hsplit, fun hmem => ?_⟩
    obtain ⟨other, hother, hsame⟩ := List.mem_map.1 hmem
    have hne := hbefore other hother
    simp [hsame] at hne
  · rintro ⟨before, after, hsplit, hfresh⟩
    refine ⟨(name, schema), List.find?_eq_some_iff_append.2 ⟨beq_self_eq_true name, before, after,
      hsplit, fun other hother => ?_⟩, rfl⟩
    have hne : other.1 ≠ name := fun hsame => hfresh (hsame ▸ List.mem_map_of_mem hother)
    simp [hne]

/-- A name that is asked for has a foremost component. -/
theorem exists_foremost (h : (name, schema) ∈ doc.namedSchemas) :
    ∃ foremost, doc.foremost? name = some foremost := by
  have hfind : (doc.namedSchemas.find? fun entry => entry.1 == name).isSome = true :=
    List.find?_isSome.2 ⟨_, h, beq_self_eq_true name⟩
  obtain ⟨entry, hentry⟩ := Option.isSome_iff_exists.1 hfind
  exact ⟨entry.2, by rw [foremost?, hentry]; rfl⟩

/-- The models of a document, those of one place taken apart. -/
theorem builtModels_eq {before after : List (String × Schema)}
    (hsplit : doc.namedSchemas = before ++ (name, schema) :: after) :
    let built := buildModel name false schema (namesAfter doc.givenNames before)
    doc.builtModels = buildModels doc.givenNames before ++
      (built.result :: built.hoisted ++ buildModels built.names after) := by
  show buildModels doc.givenNames doc.namedSchemas = _
  rw [hsplit, buildModels_append]
  rfl

/-- Nothing that is built before the foremost component has its name. -/
theorem name_not_mem_built_before {before after : List (String × Schema)}
    (hsplit : doc.namedSchemas = before ++ (name, schema) :: after)
    (hfresh : name ∉ before.map Prod.fst) :
    ∀ model ∈ buildModels doc.givenNames before, model.name ≠ name := by
  intro model hmem hname
  cases hgenerated : model.generated with
  | false => exact hfresh (hname ▸ name_mem_of_not_generated hmem hgenerated)
  | true =>
    -- a made-up model avoids the names that the document gives, and this is one of them
    have hbuilt : model ∈ doc.builtModels := by
      rw [builtModels_eq hsplit]
      exact List.mem_append_left _ hmem
    refine doc.madeUp_builtModels.2.1 model (List.mem_filter.2 ⟨hbuilt, hgenerated⟩) ?_
    rw [hname, hsplit, List.map_append, List.map_cons]
    exact List.mem_append_right _ List.mem_cons_self

/-- The graph of the document holds the model of the foremost component, and any graph that holds the
made-up models says that this one does what the schema does. -/
theorem foremost_stored (h : doc.foremost? name = some schema) :
    ∃ before after, doc.namedSchemas = before ++ (name, schema) :: after ∧
      let model := (buildModel name false schema (namesAfter doc.givenNames before)).result
      (Graph.ofDocument doc).get? name = some model ∧
        ∀ graph : Graph, graph.Stores (madeUp doc.builtModels) →
          graph.Describes name false schema model := by
  -- The first schema of the name splits the list; no model built before it has the name.
  obtain ⟨before, after, hsplit, hfresh⟩ := foremost?_eq_some_iff.1 h
  let taken := namesAfter doc.givenNames before
  let built := buildModel name false schema taken
  have hall : doc.builtModels = buildModels doc.givenNames before ++
      (built.result :: built.hoisted ++ buildModels built.names after) := builtModels_eq hsplit
  refine ⟨before, after, hsplit, ?_, fun graph hstores => ?_⟩
  · -- The look-up takes the first of a name, so what was built before must be skipped.
    have hnone : (buildModels doc.givenNames before).find?
        (fun model => decide (model.name = name)) = none :=
      List.find?_eq_none.2 fun model hmem htrue =>
        name_not_mem_built_before hsplit hfresh model hmem (of_decide_eq_true htrue)
    have hname : built.result.name = name := (buildModel_name name false schema taken).1
    rw [get?_ofDocument, hall, List.find?_append, hnone, Option.none_or, List.cons_append]
    exact List.find?_cons_of_pos (decide_eq_true hname)
  · -- What the schema hoists is stored as well: it is made up, and stands among the models built.
    have hhoists := building_hoists.1 name false schema taken
    refine hhoists.result _ fun model hmem => hstores model ?_
    refine List.mem_filter.2 ⟨?_, hhoists.grows.generated model hmem⟩
    rw [hall]
    exact List.mem_append_right _ (List.mem_append_left _ (List.mem_cons_of_mem _ hmem))

/-- **A name leads to the model of its foremost component.** -/
theorem defines_foremost (h : doc.foremost? name = some schema) : doc.Defines name schema := by
  obtain ⟨before, after, hsplit, hstored, hdescribes⟩ := foremost_stored h
  refine ⟨⟨before, after, hsplit, hstored⟩, fun model hmodel => ?_⟩
  obtain rfl := Option.some.inj (hstored.symm.trans hmodel)
  exact hdescribes _ doc.madeUp_builtModels.2.2

/-! ## What references are typed by -/

/-- `doc.Typed key schema token` — a reference to the component with that key and schema is typed
by the token: it names the model of the component, unless an earlier component asks for the name,
and then the model of the foremost one that does. -/
structure Typed (doc : Document) (key : String) (schema : Schema) (token : TypeToken) : Prop where
  named : token = .named (Naming.typeName key)
  own : doc.foremost? (Naming.typeName key) = some schema →
    doc.Defines (Naming.typeName key) schema
  foremost : ∃ foremost, doc.foremost? (Naming.typeName key) = some foremost ∧
    doc.Defines (Naming.typeName key) foremost

/-- A component with a model is typed by its name. -/
theorem typed_of_mem {key : String} (h : (Naming.typeName key, schema) ∈ doc.namedSchemas) :
    doc.Typed key schema (.named (Naming.typeName key)) where
  named := rfl
  own := defines_foremost
  foremost := by
    obtain ⟨foremost, hforemost⟩ := exists_foremost h
    exact ⟨foremost, hforemost, defines_foremost hforemost⟩

end Document

/-- `op.GivesComponent doc key schema` — a success gives the response component with that key, whose
payload has a model of its own, built of the schema. -/
def Operation.GivesComponent (op : Operation) (doc : Document) (key : String) (schema : Schema) :
    Prop :=
  ∃ status response reference component,
    Extraction.success? op = some (status, response) ∧ response.reference = some reference ∧
    key = Naming.referencedKey reference ∧ doc.responses.get? key = some component ∧
    payloadSchema? component.content = some schema

/-- `op.TakesComponent doc key schema` — the request takes the request body component with that key,
whose payload has a model of its own, built of the schema. -/
def Operation.TakesComponent (op : Operation) (doc : Document) (key : String) (schema : Schema) :
    Prop :=
  ∃ body reference component,
    op.requestBody = some body ∧ body.reference = some reference ∧
    key = Naming.referencedKey reference ∧ doc.requestBodies.get? key = some component ∧
    payloadSchema? component.content = some schema

/-- The payload of a component that has a model of its own is typed by the component's name. -/
theorem Graph.PayloadStands.eq_named {graph : Graph} {content : Option Content} {key : String}
    {schema : Schema} {type : Option TypeToken} (h : graph.PayloadStands content (some key) type)
    (hs : payloadSchema? content = some schema) :
    type = some (.named (Naming.typeName key)) := by
  obtain ⟨hschema, hbare⟩ := Option.filter_eq_some_iff.1 hs
  unfold PayloadStands at h
  rw [hschema] at h
  obtain ⟨token, htype, hnamed⟩ := h
  rw [if_neg (by simpa using hbare)] at hnamed
  rw [htype, hnamed]

/-- A response that gives a component is typed by the component's name. -/
theorem Graph.ResponseStands.eq_named {graph : Graph} {doc : Document} {op : Operation}
    {type : Option TypeToken} {key : String} {schema : Schema}
    (h : graph.ResponseStands doc op type) (hgives : op.GivesComponent doc key schema) :
    type = some (.named (Naming.typeName key)) := by
  obtain ⟨status, response, reference, component, hsuccess, href, rfl, hcomponent, hs⟩ := hgives
  unfold ResponseStands at h
  rw [hsuccess] at h
  simp only [responseSource, href, hcomponent] at h
  exact h.eq_named hs

/-- A request that takes a component is typed by the component's name. -/
theorem Graph.RequestStands.eq_named {graph : Graph} {doc : Document} {op : Operation}
    {payload : Option Payload} {key : String} {schema : Schema}
    (h : graph.RequestStands doc op payload) (htakes : op.TakesComponent doc key schema) :
    payload.map Payload.type = some (.named (Naming.typeName key)) := by
  obtain ⟨body, reference, component, hbody, href, rfl, hcomponent, hs⟩ := htakes
  have hsource : op.requestBody.bind (Extraction.bodySource? doc) =
      some (component.content, some (Naming.referencedKey reference),
        component.required || body.required) := by
    rw [hbody, Option.bind_some, Extraction.bodySource?, href]
    simp only [hcomponent, Option.map_some]
  unfold RequestStands at h
  rw [hsource] at h
  exact h.eq_named hs

/-! ## The definitions of a run -/

/-- Every reference to a component that has a model is typed by the name of the component, and the
name leads to the component's own model unless an earlier component asks for it. -/
structure Extraction.KeepsDefinitions (doc : Document) (routes : List String)
    (extraction : Extraction) : Prop where
  responses : List.Forall₂ (fun operation endpoint => ∀ key schema,
      operation.2.2.2.GivesComponent doc key schema →
        ∃ token, endpoint.response = some token ∧ doc.Typed key schema token)
    (Extraction.visits doc routes) extraction.endpoints
  requests : List.Forall₂ (fun operation endpoint => ∀ key schema,
      operation.2.2.2.TakesComponent doc key schema →
        ∃ payload, endpoint.request = some payload ∧ doc.Typed key schema payload.type)
    (Extraction.visits doc routes) extraction.endpoints
  /-- A schema that refers to another one and has no shape of its own. -/
  schemas : ∀ (schema : Schema) reference target, schema.reference = some reference →
    schema.composition? = none → schema.hasProperties = false →
    doc.schemas.get? (Naming.referencedKey reference) = some target →
      ∃ token, schema.resolve = .type token ∧
        doc.Typed (Naming.referencedKey reference) target token

/-- **Components keep their definitions,** as far as the names they ask for are their own. -/
theorem Document.extract_keeps_definitions {doc : Document} {routes : List String}
    {extraction : Extraction} (h : doc.extract routes (Graph.ofDocument doc) = .ok extraction) :
    extraction.KeepsDefinitions doc routes := by
  have hstands := Document.endpoints_stand h
  refine ⟨hstands.imp fun operation endpoint hstands key schema hgives => ?_,
    hstands.imp fun operation endpoint hstands key schema htakes => ?_,
    fun schema reference target href hc hp htarget => ?_⟩
  · have hmem : (Naming.typeName key, schema) ∈ doc.namedSchemas := by
      obtain ⟨status, response, reference, component, -, -, -, hcomponent, hs⟩ := hgives
      exact mem_namedSchemas_of_response hcomponent hs
    exact ⟨_, hstands.response.eq_named hgives, typed_of_mem hmem⟩
  · have hmem : (Naming.typeName key, schema) ∈ doc.namedSchemas := by
      obtain ⟨body, reference, component, -, -, -, hcomponent, hs⟩ := htakes
      exact mem_namedSchemas_of_requestBody hcomponent hs
    obtain ⟨payload, hpayload, htype⟩ :=
      Option.map_eq_some_iff.1 (hstands.request.eq_named htakes)
    exact ⟨payload, hpayload, htype ▸ typed_of_mem hmem⟩
  · exact ⟨_, Schema.resolve_of_reference href hc hp,
      typed_of_mem (mem_namedSchemas_of_schema htarget)⟩

/-! ## Two components with one key -/

/-- An object with a number. -/
def codeSchema : Schema where
  properties := some [("code", { type := some (.single "integer") })]

/-- An operation that gives the response component `Problem`. -/
def clashOperation : Operation where
  id := some "fetch"
  responses := .ofList [("200", { reference := some "#/components/responses/Problem" })]

/-- A schema and a response share a key, and what they say differs. -/
def clashDocument : Document where
  paths := .ofList [("/a", { get := some clashOperation })]
  components := some {
    schemas := some (.ofList [("Problem", labelSchema)])
    responses := some (.ofList [("Problem",
      { content := some (.ofList [("application/json", { schema := some codeSchema })]) })]) }

/-- The operation gives the component `Problem`, with a number for its payload. -/
theorem clashOperation_givesComponent :
    clashOperation.GivesComponent clashDocument "Problem" codeSchema :=
  ⟨200, { reference := some "#/components/responses/Problem" }, "#/components/responses/Problem",
    { content := some (.ofList [("application/json", { schema := some codeSchema })]) },
    rfl, rfl, by decide +kernel, rfl, rfl⟩

/-- Even here the definitions are kept, as far as the names are the components' own. -/
theorem Document.extract_keeps_definitions_clash :
    ∃ extraction, clashDocument.extract [] (Graph.ofDocument clashDocument) = .ok extraction ∧
      extraction.KeepsDefinitions clashDocument [] := by
  have hok : (clashDocument.extract [] (Graph.ofDocument clashDocument)).isOk = true := by
    decide +kernel
  cases h : clashDocument.extract [] (Graph.ofDocument clashDocument) with
  | error cause =>
    rw [h] at hok
    cases hok
  | ok extraction => exact ⟨extraction, rfl, Document.extract_keeps_definitions h⟩

/-- The model of an object with one property has that one field. -/
theorem keys_buildModel_of_property (name : String) (schema : Schema) (taken : Names) {key : String}
    {part : Schema} (hb : schema.bareReference? = none) (hc : schema.composition? = none)
    (hp : schema.ownProperties = [(key, part)]) :
    (buildModel name false schema taken).result.fields.keys = [key] := by
  have hhas : schema.hasProperties = true := by rw [Schema.hasProperties, hp]; rfl
  rw [buildModel_of_record hb hc hhas, hp, buildFields_cons]
  simp only [buildFields]
  rfl

/-- The reference to the response is typed by the name of the schema, whatever names are taken. -/
theorem Document.extract_loses_definition_clash :
    ∃ extraction, clashDocument.extract [] (Graph.ofDocument clashDocument) = .ok extraction ∧
      extraction.endpoints.map Endpoint.response = [some (.named "Problem")] ∧
      clashOperation.GivesComponent clashDocument "Problem" codeSchema ∧
      ∀ taken, (Graph.ofDocument clashDocument).get? "Problem" ≠
        some (buildModel "Problem" false codeSchema taken).result := by
  have hresponse : (clashDocument.extract [] (Graph.ofDocument clashDocument)).toOption.map
      (fun extraction => extraction.endpoints.map Endpoint.response) =
        some [some (.named "Problem")] := by
    decide +kernel
  have hforemost : clashDocument.foremost? "Problem" = some labelSchema := by
    have hnamed : clashDocument.namedSchemas =
        [("Problem", labelSchema), ("Problem", codeSchema)] := rfl
    rw [foremost?, hnamed]
    rfl
  cases h : clashDocument.extract [] (Graph.ofDocument clashDocument) with
  | error cause =>
    rw [h] at hresponse
    cases hresponse
  | ok extraction =>
    rw [h] at hresponse
    refine ⟨extraction, rfl, Option.some.inj hresponse, clashOperation_givesComponent,
      fun taken hown => ?_⟩
    -- what the name leads to was built of the schema, and has its key
    obtain ⟨before, after, -, hheld⟩ := (defines_foremost hforemost).built
    have hcode := keys_buildModel_of_property "Problem" codeSchema taken rfl rfl rfl
    rw [← Option.some.inj (hheld.symm.trans hown),
      keys_buildModel_of_property "Problem" labelSchema _ rfl rfl rfl] at hcode
    revert hcode
    decide

end ClientForge
