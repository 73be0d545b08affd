/-
  Where the models of a document come from.

  A model is that of a component, or it was made up for a schema that needs a name: an inline object
  or composition, or the own properties of a composition (`Model.MadeOf`).  Two things are true of
  whatever a building step hoists: it was made of a schema inside the one that the step works on, and
  its name is that of the step's owner with words and numbers after it (`Model.StemsFrom`).  They are
  kept in one statement because both are about who owns what, and every step changes owner and schema
  together.

  The induction is that of building, step by step (`stemsFrom_steps`).  In a composition the owner's
  name has to be passed on through a function that gives each member its name by its place, and the
  statement for members therefore speaks of any base that all these names extend.

  Then come the places in which a document has schemas, since what is said at the end is said of the
  document: every model of a run, of its components or of its endpoints, was made of a schema inside
  one of the document's outer ones, and its name begins with one that the document gives
  (`stemsFrom_of_mem_builtModels`, `stemsFrom_of_mem_synthesized`).  It is from here that what is true
  of all schemas of a document becomes true of all models of the client.
-/
import ClientForge.Proofs.Document.References
import ClientForge.Proofs.Endpoints.Methods
import ClientForge.Proofs.Hoisting.Endpoints
import ClientForge.Proofs.Naming.Legal

namespace ClientForge

open ClientForge.Naming

/-! ## Schemas that need a name -/

/-- Where a value is expected the schema has no type of its own: it is an inline object or a
composition. -/
def Schema.NeedsName (schema : Schema) : Prop :=
  schema.hasProperties = true ∨ schema.composition?.isSome = true

/-- **Only such schemas are left for a name** by a resolution. -/
theorem Schema.needsName_of_resolve {schema inner : Schema} {depth : Nat}
    (h : schema.resolve = .anonymous inner depth) : inner.NeedsName := by
  refine Schema.resolve_induct
    (motive := fun _ resolution => ∀ inner depth, resolution = .anonymous inner depth →
      inner.NeedsName)
    ?own ?single ?reference ?items ?values ?scalar ?untyped schema inner depth h
  case own =>
    rintro schema hneeds _ _ ⟨⟩
    exact hneeds
  case single =>
    intro schema part members union _ _ _ ih
    exact ih
  case items =>
    intro schema item _ _ _ _ _ ih inner depth h
    obtain ⟨d, hd⟩ := Resolution.anonymous_of_inArray h
    exact ih inner d hd
  -- the other branches give a type
  all_goals
    intros
    contradiction

/-! ## Models and the schemas they are made of -/

/-- `MadeOf schema model` — some building step gave the model for the schema, whatever its name and
whatever names were taken. -/
inductive Model.MadeOf (schema : Schema) : Model → Prop
  /-- The model of a component. -/
  | component (name : String) (taken : Names) :
      MadeOf schema (buildModel name false schema taken).result
  /-- The made-up model of an inline object or composition. -/
  | inline (name : String) (taken : Names) (h : schema.NeedsName) :
      MadeOf schema (buildModel name true schema taken).result
  /-- The made-up model of the own properties of a composition. -/
  | ownFields (name : String) (taken : Names) (h : schema.composition?.isSome = true) :
      MadeOf schema (Model.withFields { name, generated := true }
        (buildFields name (schema.required.getD []) schema.ownProperties taken).result)

/-- The model was made of a schema inside one of those listed, and its name is the base with an
ending. -/
def Model.StemsFrom (base : String) (schemas : List Schema) (model : Model) : Prop :=
  Extends base model.name ∧
    ∃ outer ∈ schemas, ∃ schema : Schema, schema.Within outer ∧ model.MadeOf schema

/-- Every model of the row stems from the base and the schemas. -/
def StemsFrom (base : String) (schemas : List Schema) (models : List Model) : Prop :=
  ∀ model ∈ models, model.StemsFrom base schemas

namespace StemsFrom

variable {base name : String} {schemas others : List Schema} {first second : List Model}

/-- No models stem from anything. -/
theorem nil (base : String) (schemas : List Schema) : StemsFrom base schemas [] := by
  intro model hmem
  cases hmem

/-- Two rows that stem from the same stem from it together. -/
theorem append (h₁ : StemsFrom base schemas first) (h₂ : StemsFrom base schemas second) :
    StemsFrom base schemas (first ++ second) := by
  intro model hmem
  rcases List.mem_append.1 hmem with hmem | hmem
  · exact h₁ model hmem
  · exact h₂ model hmem

/-- One model more. -/
theorem cons {model : Model} {outer schema : Schema} (hname : Extends base model.name)
    (houter : outer ∈ schemas) (hin : schema.Within outer) (hmade : model.MadeOf schema)
    (h : StemsFrom base schemas first) : StemsFrom base schemas (model :: first) := by
  intro other hmem
  rcases List.mem_cons.1 hmem with rfl | hmem
  · exact ⟨hname, outer, houter, schema, hin, hmade⟩
  · exact h other hmem

/-- What is named after a name is named after what this extends. -/
theorem of_extends (hname : Extends base name) (h : StemsFrom name schemas first) :
    StemsFrom base schemas first := by
  intro model hmem
  obtain ⟨hmodel, horigin⟩ := h model hmem
  exact ⟨hname.trans hmodel, horigin⟩

/-- What is inside a part is inside the whole. -/
theorem widen (h : StemsFrom base schemas first)
    (hin : ∀ schema ∈ schemas, ∃ other ∈ others, schema.Within other) :
    StemsFrom base others first := by
  intro model hmem
  obtain ⟨hmodel, outer, houter, schema, hschema, hmade⟩ := h model hmem
  obtain ⟨other, hother, hwithin⟩ := hin outer houter
  exact ⟨hmodel, other, hother, schema, hschema.trans hwithin, hmade⟩

/-- More schemas may be listed. -/
theorem subset (h : StemsFrom base schemas first) (hsub : schemas ⊆ others) :
    StemsFrom base others first :=
  h.widen fun schema hmem => ⟨schema, hsub hmem, .refl⟩

end StemsFrom

/-! ## Every step stems from its owner -/

/-- The name of a member is that of the composition with words after it. -/
theorem extends_memberName (owner : String) (total index : Nat) :
    Extends owner (memberName owner total index) := by
  have hfields : Ending "Fields".toList := by decide
  unfold memberName
  split
  · exact .of_append hfields
  · exact (Extends.of_append hfields).trans (.of_append (.decimalText index))

section Steps

variable {base : String} {schema : Schema} {members : List Schema} {union : Bool}

/-- What stems from the members of a composition stems from it. -/
theorem stemsFrom_members {models : List Model}
    (hc : schema.composition? = some (members, union)) (h : StemsFrom base members models) :
    StemsFrom base [schema] models :=
  h.widen fun _ hmem => ⟨schema, List.mem_singleton_self _, Schema.within_of_member hc hmem⟩

/-- What stems from the properties of an object stems from it. -/
theorem stemsFrom_properties {models : List Model}
    (h : StemsFrom base (schema.ownProperties.map Prod.snd) models) :
    StemsFrom base [schema] models := by
  refine h.widen fun part hmem => ?_
  obtain ⟨entry, hentry, rfl⟩ := List.mem_map.1 hmem
  exact ⟨schema, List.mem_singleton_self _, Schema.within_of_property hentry⟩

end Steps

/-- Every step stems from its owner. -/
theorem stemsFrom_steps : BuildingSteps
    (fun name _ schema _ built => StemsFrom name [schema] built.hoisted)
    (fun owner _ properties _ built => StemsFrom owner (properties.map Prod.snd) built.hoisted)
    (fun preferred schema _ built => StemsFrom preferred [schema] built.hoisted)
    (fun wished _ members _ built => ∀ base, (∀ index, Extends base (wished index)) →
      StemsFrom base members built.hoisted) where
  reference _ := .nil _ _
  -- Members, own properties and the model for the own fields: three rows, each with its origin,
  -- appended in the order in which they are built.
  extended := by
    intro name generated schema names members union hb hc hp total parts own fields hparts hfields
    have hsome : schema.composition?.isSome = true := by rw [hc]; rfl
    have howner : Extends name own.1 := (extends_memberName name total total).trans (.claim _ _)
    have hmembers : StemsFrom name [schema] parts.hoisted :=
      stemsFrom_members hc (hparts name (extends_memberName name total))
    have hproperties : StemsFrom name [schema] fields.hoisted :=
      (stemsFrom_properties hfields).of_extends howner
    exact (hmembers.append hproperties).append
      (.cons howner (List.mem_singleton_self _) .refl (.ownFields _ _ hsome) (.nil _ _))
  composition := by
    intro name generated schema names members union hb hc hp total parts hparts
    exact stemsFrom_members hc (hparts name (extends_memberName name total))
  record _ _ _ hfields := stemsFrom_properties hfields
  scalar _ _ _ _ := .nil _ _
  array _ _ _ _ _ htype := htype.of_extends (.of_append (by decide))
  map _ _ _ _ _ _ := .nil _ _
  plain _ _ _ _ _ _ := .nil _ _
  noField := .nil _ _
  -- The base grows by the property's name; what the rest hoists keeps the owner as its base.
  field := by
    intro owner key required schema rest names type others htype hothers
    have hfirst := htype.of_extends (.hoistedName owner key)
    exact (hfirst.subset (List.cons_subset.2 ⟨List.mem_cons_self, List.nil_subset _⟩)).append
      (hothers.subset (List.subset_cons_self _ _))
  own _ := .nil _ _
  -- The model claimed here stems from the schema in hand, and everything built for it from the
  -- inner schema, which lies within.
  inline := by
    intro preferred schema inner names depth hr own built hbuilt
    have hin : inner.Within schema := Schema.within_of_resolve hr
    have hclaim : Extends preferred own.1 := .claim names preferred
    refine .cons ?_ (List.mem_singleton_self _) hin (.inline _ _ (Schema.needsName_of_resolve hr))
      ((hbuilt.of_extends hclaim).widen fun part hmem => ?_)
    · rwa [(buildModel_name _ _ _ _).1]
    · obtain rfl := List.mem_singleton.1 hmem
      exact ⟨schema, List.mem_singleton_self _, hin⟩
  noMember _ _ := .nil _ _
  memberReference _ hothers base hwished :=
    (hothers base hwished).subset (List.subset_cons_self _ _)
  -- As in the inline case, with the base handed down: each member's wish extends it.
  memberInline := by
    intro wished index member rest names hb h own built others hbuilt hothers base hwished
    have hname : Extends base own.1 := (hwished index).trans (.claim names (wished index))
    have hneeds : member.NeedsName := by simpa [Schema.NeedsName] using h
    have hfirst : StemsFrom base (member :: rest) built.hoisted :=
      (hbuilt.of_extends hname).subset
        (List.cons_subset.2 ⟨List.mem_cons_self, List.nil_subset _⟩)
    refine StemsFrom.append (.cons ?_ List.mem_cons_self .refl (.inline _ _ hneeds) hfirst)
      ((hothers base hwished).subset (List.subset_cons_self _ _))
    rwa [(buildModel_name _ _ _ _).1]
  memberOther _ _ hothers base hwished :=
    (hothers base hwished).subset (List.subset_cons_self _ _)

/-- **What building hoists stems from its owner,** along the calls of the four functions: it is made
of what stands inside and named after the owner. -/
theorem building_stemsFrom :
    (∀ name generated schema names,
      StemsFrom name [schema] (buildModel name generated schema names).hoisted) ∧
    (∀ owner required properties names, StemsFrom owner (properties.map Prod.snd)
      (buildFields owner required properties names).hoisted) ∧
    (∀ preferred schema names,
      StemsFrom preferred [schema] (bindSchema preferred schema names).hoisted) ∧
    (∀ wished index members names, ∀ base, (∀ index, Extends base (wished index)) →
      StemsFrom base members (buildMembers wished index members names).hoisted) :=
  stemsFrom_steps.built

/-! ## The schemas of an operation -/

namespace Document

variable {doc : Document} {item : PathItem} {method : Method} {op : Operation} {schema : Schema}

/-- The schemas of an operation are among the outer ones. -/
theorem outer_of_operation (hitem : item ∈ doc.paths.values)
    (hop : item.operation? method = some op) (hs : schema ∈ op.schemas) :
    schema ∈ doc.outerSchemas := by
  refine outer_of_path hitem ?_
  simp only [PathItem.schemas, List.mem_append]
  exact Or.inr (List.mem_flatMap.2 ⟨(method, op), Extraction.mem_operations.2 hop, hs⟩)

/-- So are those of its parameters, whether they are the operation's own, the route's or the
document's. -/
theorem outer_of_parametersOf (hitem : item ∈ doc.paths.values)
    (hop : item.operation? method = some op) {entry : Parameter × Location}
    (hentry : entry ∈ Extraction.parametersOf doc item op) (hs : entry.1.schema = some schema) :
    schema ∈ doc.outerSchemas := by
  obtain ⟨raw, hraw, hentry⟩ := List.mem_filterMap.1 hentry
  obtain ⟨param, hresolve, hentry⟩ := Option.bind_eq_some_iff.1 hentry
  obtain ⟨location, -, heq⟩ := Option.bind_eq_some_iff.1 hentry
  cases heq
  unfold resolve? at hresolve
  split at hresolve
  · cases hresolve
    have hown : schema ∈ (item.parameters.getD []).filterMap Parameter.schema ∨
        schema ∈ (op.parameters.getD []).filterMap Parameter.schema := by
      rcases List.mem_append.1 hraw with hraw | hraw
      · exact Or.inl (List.mem_filterMap.2 ⟨raw, hraw, hs⟩)
      · exact Or.inr (List.mem_filterMap.2 ⟨raw, hraw, hs⟩)
    rcases hown with hown | hown
    · refine outer_of_path hitem ?_
      simp only [PathItem.schemas, List.mem_append]
      exact Or.inl hown
    · refine outer_of_operation hitem hop ?_
      simp only [Operation.schemas, List.mem_append]
      exact Or.inl (Or.inl hown)
  · -- a reference to a parameter leads to one of the document's
    exact outer_of_parameter (Table.mem_values_of_get? hresolve) hs

/-- The payload of a success, wherever its content comes from. -/
theorem outer_of_responseSource {status : Nat} {response : Response}
    (houter : ∀ schema ∈ op.schemas, schema ∈ doc.outerSchemas)
    (hsuccess : Extraction.success? op = some (status, response))
    (hs : schema ∈ payloadSchemas (responseSource doc response).1) : schema ∈ doc.outerSchemas := by
  obtain ⟨preferred, -, hget⟩ := List.exists_of_findSome?_eq_some hsuccess
  obtain ⟨found, hfound, heq⟩ := Option.map_eq_some_iff.1 hget
  cases heq
  unfold responseSource at hs
  split at hs
  · split at hs
    · rename_i component hcomponent
      exact outer_of_response (Table.mem_values_of_get? hcomponent) hs
    · cases hs
  · refine houter schema ?_
    simp only [Operation.schemas, List.mem_append]
    exact Or.inr (List.mem_flatMap.2 ⟨response, Table.mem_values_of_get? hfound, hs⟩)

/-- The payload of a request, wherever its content comes from. -/
theorem outer_of_bodySource {content : Option Content} {component : Option String}
    {required : Bool} (houter : ∀ schema ∈ op.schemas, schema ∈ doc.outerSchemas)
    (hsource : op.requestBody.bind (Extraction.bodySource? doc) =
      some (content, component, required))
    (hs : schema ∈ payloadSchemas content) : schema ∈ doc.outerSchemas := by
  obtain ⟨body, hbody, hsource⟩ := Option.bind_eq_some_iff.1 hsource
  unfold Extraction.bodySource? at hsource
  split at hsource
  · obtain ⟨stored, hstored, heq⟩ := Option.map_eq_some_iff.1 hsource
    cases heq
    exact outer_of_requestBody (Table.mem_values_of_get? hstored) hs
  · cases hsource
    refine houter schema ?_
    simp only [Operation.schemas, List.mem_append]
    exact Or.inl (Or.inr (List.mem_flatMap.2 ⟨body, Option.mem_toList.2 hbody, hs⟩))

end Document

/-! ## The models of a document and of its endpoints -/

/-- Every model built for a row of named schemas stems from one of them. -/
theorem buildModels_stemsFrom {names : Names} {named : List (String × Schema)} :
    ∀ model ∈ buildModels names named, ∃ entry ∈ named, model.StemsFrom entry.1 [entry.2] := by
  induction named generalizing names with
  | nil => exact nofun
  | cons entry rest ih =>
    obtain ⟨name, schema⟩ := entry
    have hbuilt : StemsFrom name [schema] ((buildModel name false schema names).result ::
        (buildModel name false schema names).hoisted) :=
      .cons (by rw [(buildModel_name _ _ _ _).1]; exact .refl name) (List.mem_singleton_self _)
        .refl (.component _ _) (building_stemsFrom.1 name false schema names)
    intro model hmem
    rw [buildModels] at hmem
    rcases List.mem_append.1 hmem with hmem | hmem
    · exact ⟨(name, schema), List.mem_cons_self, hbuilt model hmem⟩
    · obtain ⟨entry, hentry, hstems⟩ := ih model hmem
      exact ⟨entry, List.mem_cons_of_mem _ hentry, hstems⟩

namespace Extraction

variable {doc : Document} {names : Names}

/-- What is hoisted for the type of a schema stems from it. -/
theorem bindSchema_stemsFrom {schemas : List Schema} {schema : Schema} {preferred : String}
    (hmem : schema ∈ schemas) :
    StemsFrom preferred schemas (bindSchema preferred schema names).hoisted :=
  (building_stemsFrom.2.2.1 preferred schema names).subset
    (List.cons_subset.2 ⟨hmem, List.nil_subset _⟩)

/-- What is hoisted for parameters stems from their schemas. -/
theorem paramFields_stemsFrom {endpoint : String} {schemas : List Schema}
    {params : List (Parameter × Location)}
    (h : ∀ entry ∈ params, ∀ schema, entry.1.schema = some schema → schema ∈ schemas) :
    StemsFrom endpoint schemas (paramFields endpoint params names).hoisted := by
  induction params generalizing names with
  | nil => exact .nil _ _
  | cons entry rest ih =>
    obtain ⟨param, location⟩ := entry
    refine StemsFrom.append ?_ (ih fun other hother => h other (List.mem_cons_of_mem _ hother))
    unfold paramField
    cases hschema : param.schema with
    | none => exact .nil _ _
    | some schema =>
      exact (bindSchema_stemsFrom (h _ List.mem_cons_self schema hschema)).of_extends
        (.hoistedName endpoint param.name)

/-- What is hoisted for a payload stems from its schema. -/
theorem payloadType_stemsFrom {content : Option Content} {component : Option String}
    {surrogate : String} {schemas : List Schema}
    (h : ∀ schema ∈ payloadSchemas content, schema ∈ schemas) :
    StemsFrom surrogate schemas (payloadType doc content component surrogate names).hoisted := by
  unfold payloadType
  cases hmedia : content.bind Content.json? with
  | none => exact .nil _ _
  | some media => cases hschema : media.schema with
    | none =>
      simp only [hschema]
      exact .nil _ _
    | some schema =>
      simp only [hschema]
      cases if schema.isBareReference then none else component with
      | some key => exact .nil _ _
      | none =>
        refine bindSchema_stemsFrom (h schema (mem_payloadSchemas ?_))
        rw [hmedia, Option.bind_some, hschema]

/-- What is hoisted for an operation stems from its schemas, under the operation's name. -/
theorem endpointOf_stemsFrom {route : String} {item : PathItem} {method : Method} {op : Operation}
    {built : Built Endpoint} (hitem : item ∈ doc.paths.values)
    (hop : item.operation? method = some op)
    (h : endpointOf doc route item method op names = .ok built) :
    StemsFrom (nameOf route method op) doc.outerSchemas built.hoisted := by
  -- The operation's schemas all occur in the document outside its components.
  have houter : ∀ schema ∈ op.schemas, schema ∈ doc.outerSchemas :=
    fun schema => Document.outer_of_operation hitem hop
  unfold endpointOf at h
  dsimp only at h
  split at h
  · cases h
  · cases h
    refine StemsFrom.append (StemsFrom.append ?_ ?_) ?_
    · -- Parameters first, then the response, then the request body: the order of the building.
      exact paramFields_stemsFrom fun entry hentry schema =>
        Document.outer_of_parametersOf hitem hop hentry
    · unfold responseOf
      cases hsuccess : success? op with
      | none => exact .nil _ _
      | some found =>
        obtain ⟨status, response⟩ := found
        exact (payloadType_stemsFrom fun schema =>
          Document.outer_of_responseSource houter hsuccess).of_extends (.of_append (by decide))
    · unfold requestOf
      cases hsource : op.requestBody.bind (bodySource? doc) with
      | none => exact .nil _ _
      | some source =>
        obtain ⟨content, component, required⟩ := source
        exact (payloadType_stemsFrom fun schema =>
          Document.outer_of_bodySource houter hsource).of_extends (.of_append (by decide))

/-- Every model made for the operations of a row stems from one of them. -/
theorem endpointsOf_stemsFrom {operations : List Visit} {built : Built (List Endpoint)}
    (hvisits : ∀ visit ∈ operations, visit.2.1 ∈ doc.paths.values ∧
      visit.2.1.operation? visit.2.2.1 = some visit.2.2.2)
    (h : endpointsOf doc operations names = .ok built) :
    ∀ model ∈ built.hoisted, ∃ visit ∈ operations,
      model.StemsFrom (Visit.name visit) doc.outerSchemas := by
  induction operations generalizing names built with
  | nil =>
    cases h
    exact nofun
  | cons visit rest ih =>
    obtain ⟨hitem, hop⟩ := hvisits _ List.mem_cons_self
    obtain ⟨endpoint, others, hfirst, hrest, rfl⟩ := exists_of_endpointsOf_cons h
    intro model hmem
    rcases List.mem_append.1 hmem with hmem | hmem
    · exact ⟨visit, List.mem_cons_self, endpointOf_stemsFrom hitem hop hfirst model hmem⟩
    · obtain ⟨found, hfound, hstems⟩ :=
        ih (fun visit hmem => hvisits visit (List.mem_cons_of_mem _ hmem)) hrest model hmem
      exact ⟨found, List.mem_cons_of_mem _ hfound, hstems⟩

end Extraction

namespace Document

variable {doc : Document} {model : Model}

/-- **The models of a document** stem from its named schemas. -/
theorem stemsFrom_of_mem_builtModels (h : model ∈ doc.builtModels) :
    ∃ entry ∈ doc.namedSchemas, model.StemsFrom entry.1 doc.outerSchemas := by
  obtain ⟨entry, hentry, hname, outer, houter, hmade⟩ := buildModels_stemsFrom model h
  obtain rfl := List.mem_singleton.1 houter
  exact ⟨entry, hentry, hname, entry.2, outer_of_namedSchema hentry, hmade⟩

/-- **The models made for endpoints** stem from the operations visited. -/
theorem stemsFrom_of_mem_synthesized {routes : List String} {graph : Graph}
    {extraction : Extraction} (h : doc.extract routes graph = .ok extraction)
    (hmem : model ∈ extraction.synthesized) :
    ∃ visit ∈ Extraction.visits doc routes,
      model.StemsFrom (Extraction.Visit.name visit) doc.outerSchemas := by
  obtain ⟨built, hbuilt, rfl⟩ := exists_built_of_extract h
  refine Extraction.endpointsOf_stemsFrom (fun visit hvisit => ?_) hbuilt model hmem
  obtain ⟨route, item, method, op⟩ := visit
  obtain ⟨-, hget, hop⟩ := Extraction.mem_visits.1 hvisit
  exact ⟨Table.mem_values_of_get? hget, hop⟩

end Document

end ClientForge
