/-
  What is generated without descriptions.

  A description is any text that the author of a document may write, and it is put into the generated
  code as a comment.  It must not get out of it: whatever it says, the code has to be what it would be
  without it, with comment lines added.

  The comparison is with the code for the same graph and endpoints with all descriptions taken away
  (`undescribed`).  It takes three steps.

  1. **Lookups.**  Nothing that is looked up in a graph depends on a description: the shapes of the
     models, the types and the scalars behind them, what can be embedded and what is held by value are
     the same without them.  These are the lemmas named after what they are about, all of one form.
  2. **Items and methods.**  So the items of a model without descriptions are its items without
     descriptions (`modelItems_undescribed`), and a method without them differs in its comment alone
     (`methodOf_undescribed`).  Here the two ways of taking descriptions away meet: from what is
     generated from, and from what is generated.
  3. **Text.**  The printed modules are compared line by line (`Commented`): every line of the code is
     there, and every line that is not is a comment line of a description, in the place where that
     description belongs and in its order.

  The descriptions that are printed are also listed (`modelDescriptions`, `methodDescriptions`), since
  not all of them are: those of fields are, where the model becomes a record, and those of parameters
  are not.
-/
import ClientForge.Proofs.Code.Comments
import ClientForge.Proofs.Graph.Lookup
import ClientForge.Proofs.Models.Boxing
import ClientForge.Sdk.Client
import ClientForge.Sdk.Models

namespace ClientForge

/-! ## Without descriptions -/

/-- The field without its description. -/
def Field.undescribed (field : Field) : Field := { field with description := none }

/-- The model without its description and those of its fields. -/
def Model.undescribed (model : Model) : Model :=
  { model with fields := model.fields.map Field.undescribed, description := none }

/-- The graph with every model without descriptions. -/
def Graph.undescribed (graph : Graph) : Graph where
  models := graph.models.map Model.undescribed
  named := by
    intro entry hentry
    obtain ⟨stored, hstored, rfl⟩ := List.mem_map.1 hentry
    exact graph.named stored hstored

/-- The endpoint without its description and those of its parameters. -/
def Endpoint.undescribed (endpoint : Endpoint) : Endpoint :=
  { endpoint with
    description := none
    pathParams := endpoint.pathParams.map Field.undescribed
    queryParams := endpoint.queryParams.map Field.undescribed }

/-! ## Lookups -/

namespace Model

/-- The fields are the same without descriptions. -/
theorem values_undescribed (model : Model) :
    model.undescribed.fields.values = model.fields.values.map Field.undescribed :=
  Table.values_map ..

/-- The shape of a model does not depend on descriptions. -/
theorem shape_undescribed (model : Model) : model.undescribed.shape = model.shape := by
  simp [shape, undescribed, Table.isEmpty, Table.map]

end Model

namespace Graph

/-- A name gives the same model, without descriptions. -/
theorem get?_undescribed (graph : Graph) (name : String) :
    graph.undescribed.get? name = (graph.get? name).map Model.undescribed :=
  Table.get?_map ..

/-- The names that have a model are the same. -/
theorem contains_undescribed (graph : Graph) (name : String) :
    graph.undescribed.contains name = graph.contains name := by
  show (graph.undescribed.get? name).isSome = (graph.get? name).isSome
  rw [get?_undescribed, Option.isSome_map]

/-- The models are the same and in the same order. -/
theorem toList_undescribed (graph : Graph) :
    graph.undescribed.toList = graph.toList.map Model.undescribed :=
  Table.values_map ..

/-- The names are the same. -/
theorem names_undescribed (graph : Graph) : graph.undescribed.names = graph.names :=
  Table.keys_map ..

/-- The enumerations of texts are the same. -/
theorem isStringEnum_undescribed (graph : Graph) (name : String) :
    graph.undescribed.isStringEnum name = graph.isStringEnum name := by
  rw [isStringEnum, isStringEnum, get?_undescribed]
  cases graph.get? name <;> rfl

/-- A bounded look along aliases finds the same scalar. -/
theorem scalarWithin_undescribed (graph : Graph) (steps : Nat) (token : TypeToken) :
    graph.undescribed.scalarWithin steps token = graph.scalarWithin steps token := by
  induction steps generalizing token with
  | zero => rfl
  | succ steps ih =>
    cases token with
    | named name =>
      have hnext : graph.undescribed.scalarWithin steps = graph.scalarWithin steps := funext ih
      rw [scalarWithin, scalarWithin, get?_undescribed, hnext]
      cases graph.get? name <;> rfl
    | primitive p => rfl
    | array item => rfl
    | map value => rfl
    | any => rfl

/-- The scalar behind a token is the same. -/
theorem scalarOf?_undescribed (graph : Graph) (token : TypeToken) :
    graph.undescribed.scalarOf? token = graph.scalarOf? token := by
  have hsize : graph.undescribed.size = graph.size := by
    simp [size, Table.size, undescribed, Table.map]
  rw [scalarOf?, scalarOf?, hsize, scalarWithin_undescribed]

end Graph

namespace Sdk

open ClientForge.Code

/-! ## Types -/

/-- The type of a token is the same. -/
theorem typeOf_undescribed (graph : Graph) (token : TypeToken) :
    typeOf graph.undescribed token = typeOf graph token := by
  induction token with
  | primitive p => rfl
  | named name => rw [typeOf, typeOf, Graph.contains_undescribed]
  | array item ih => rw [typeOf, typeOf, ih]
  | map value ih => rw [typeOf, typeOf, ih]
  | any => rfl

/-- The types of all tokens are. -/
theorem typeOf_undescribed_eq (graph : Graph) : typeOf graph.undescribed = typeOf graph :=
  funext (typeOf_undescribed graph)

/-- A token is written in the same way. -/
theorem wireKind_undescribed (graph : Graph) (token : TypeToken) :
    wireKind graph.undescribed token = wireKind graph token := by
  have htext : isTextEnum graph.undescribed token = isTextEnum graph token := by
    cases token with
    | named name => exact Graph.isStringEnum_undescribed graph name
    | primitive p => rfl
    | array item => rfl
    | map value => rfl
    | any => rfl
  rw [wireKind, wireKind, htext, Graph.scalarOf?_undescribed]

/-- All tokens are. -/
theorem wireKind_undescribed_eq (graph : Graph) : wireKind graph.undescribed = wireKind graph :=
  funext (wireKind_undescribed graph)

/-! ## Members held by value -/

/-- A bounded look finds the same objects. -/
theorem embedsWithin_undescribed (graph : Graph) (steps : Nat) (name : String) :
    embedsWithin graph.undescribed steps name = embedsWithin graph steps name := by
  -- on the depth: the shape of a model decides how the search goes on, and it has no descriptions
  induction steps generalizing name with
  | zero =>
    rw [embedsWithin, embedsWithin, Graph.get?_undescribed]
    cases graph.get? name with
    | none => rfl
    | some model =>
      have halias : model.undescribed.aliasOf = model.aliasOf := rfl
      simp only [Option.map_some, Model.shape_undescribed, halias]
      cases model.shape with
      | plainAlias => cases model.aliasOf with
        | none => rfl
        | some token => cases token <;> rfl
      | _ => rfl
  | succ steps ih =>
    rw [embedsWithin, embedsWithin, Graph.get?_undescribed]
    cases graph.get? name with
    | none => rfl
    | some model =>
      have halias : model.undescribed.aliasOf = model.aliasOf := rfl
      have hnext : embedsWithin graph.undescribed steps = embedsWithin graph steps := funext ih
      simp only [Option.map_some, Model.shape_undescribed, halias]
      cases model.shape with
      | plainAlias => cases model.aliasOf with
        | none => rfl
        | some token => cases token with
          | named target => exact ih target
          | _ => rfl
      | composition => exact congrArg model.children.toList.any hnext
      | _ => rfl

/-- The same children are embedded. -/
theorem embedded_undescribed (graph : Graph) (model : Model) :
    embedded graph.undescribed model.undescribed = embedded graph model := by
  have hembeds : embeds graph.undescribed = embeds graph :=
    funext fun name => embedsWithin_undescribed graph embeddingDepth name
  rw [embedded, hembeds]
  rfl

/-- The same models are held by value. -/
theorem heldByValue_undescribed (graph : Graph) (model : Model) :
    heldByValue graph.undescribed model.undescribed = heldByValue graph model := by
  rw [heldByValue, heldByValue, Model.shape_undescribed, embedded_undescribed,
    Model.values_undescribed, List.filterMap_map]
  rfl

/-- A value holds values of the same models. -/
theorem holds_undescribed (graph : Graph) (owner target : String) :
    holds graph.undescribed owner target = holds graph owner target := by
  have htargets : graph.undescribed.targetsOf (heldByValue graph.undescribed) =
      graph.targetsOf (heldByValue graph) := by
    funext name
    rw [Graph.targetsOf, Graph.targetsOf, Graph.get?_undescribed]
    cases graph.get? name with
    | none => rfl
    | some model => exact heldByValue_undescribed graph model
  rw [holds, holds, Graph.leadsTo, Graph.leadsTo, Graph.reach, Graph.reach, htargets,
    Graph.names_undescribed]

/-! ## Members -/

/-- What is made of fields and their places can be made of the fields without descriptions. -/
theorem mapIdx_map_undescribed {α : Type} (f : Nat → Field → α) (fields : List Field) :
    (fields.map Field.undescribed).mapIdx f =
      fields.mapIdx fun i field => f i field.undescribed := by
  simp [List.mapIdx_eq_iff, Function.comp_def]

/-- Fields have the same identifiers. -/
theorem fieldIdents_undescribed (model : Model) :
    fieldIdents model.undescribed = fieldIdents model := by
  rw [fieldIdents, fieldIdents, Model.values_undescribed, mapIdx_map_undescribed]
  rfl

/-- A field has the same type, boxed or not. -/
theorem fieldType_undescribed (graph : Graph) (owner : String) (field : Field) :
    fieldType graph.undescribed owner field.undescribed = fieldType graph owner field := by
  unfold fieldType
  simp only [typeOf_undescribed_eq, holds_undescribed]
  rfl

/-- The members of a record are those with their descriptions taken away. -/
theorem fieldMembers_undescribed (graph : Graph) (model : Model) :
    fieldMembers graph.undescribed model.undescribed =
      (fieldMembers graph model).map Member.undescribed := by
  rw [fieldMembers, fieldMembers, fieldIdents_undescribed, Model.values_undescribed,
    List.zip_map_right, List.map_map, List.map_map]
  refine List.map_congr_left fun pair _ => ?_
  simp only [Function.comp_apply, Prod.map, fieldType_undescribed]
  rfl

/-- The members of a composition are the same, having no descriptions. -/
theorem embeddedMembers_undescribed (graph : Graph) (model : Model) :
    embeddedMembers graph.undescribed model.undescribed = embeddedMembers graph model := by
  unfold embeddedMembers
  simp only [embedded_undescribed, holds_undescribed]
  rfl

/-! ## Items -/

/-- What is embedded has no description in front of it. -/
theorem doc_of_mem_embeddedMembers {graph : Graph} {model : Model} {m : Member}
    (hm : m ∈ embeddedMembers graph model) : m.doc = none := by
  obtain ⟨⟨ident, child⟩, -, rfl⟩ := List.mem_map.1 hm
  dsimp only
  split <;> rfl

/-- The items of an enumeration are those with their descriptions taken away. -/
theorem enumItems_undescribed (graph : Graph) (model : Model) :
    enumItems graph.undescribed model.undescribed =
      (enumItems graph model).map Item.undescribed := by
  have hconstants (values : List (String × Expr)) :
      (constants model.name values).map Item.undescribed = constants model.name values := by
    rw [constants, List.map_map]
    rfl
  have hstring : model.undescribed.isStringEnum = model.isStringEnum := rfl
  have halias : model.undescribed.aliasOf = model.aliasOf := rfl
  have hscalar : graph.undescribed.scalarOf? = graph.scalarOf? :=
    funext (Graph.scalarOf?_undescribed graph)
  unfold enumItems
  simp only [hstring, halias, hscalar, typeOf_undescribed_eq]
  split
  · rw [List.map_cons, hconstants]
    rfl
  · rw [List.map_cons, hconstants]
    rfl

/-- **The items of a model without descriptions** are its items without descriptions. -/
theorem modelItems_undescribed (graph : Graph) (model : Model) :
    modelItems graph.undescribed model.undescribed =
      (modelItems graph model).map Item.undescribed := by
  have halias : model.undescribed.aliasOf = model.aliasOf := rfl
  have hembedded : (embeddedMembers graph model).map Member.undescribed =
      embeddedMembers graph model := by
    refine (List.map_congr_left fun m hm => ?_).trans (List.map_id _)
    rw [Member.undescribed, ← doc_of_mem_embeddedMembers hm]
    rfl
  unfold modelItems
  simp only [Model.shape_undescribed, enumItems_undescribed, fieldMembers_undescribed,
    embeddedMembers_undescribed, typeOf_undescribed_eq, halias]
  cases model.shape with
  | composition =>
    simp only
    split
    · rfl
    · rw [List.map_singleton, Item.undescribed, hembedded]
      rfl
  | _ => rfl

/-! ## The descriptions of a model -/

/-- The descriptions of a model's fields, where they are printed. -/
def fieldDescriptions (model : Model) : List (Nat × String) :=
  model.fields.values.flatMap fun field => field.description.toList.map fun text => (1, text)

/-- The descriptions that are printed for a model: its own, and those of its fields if they become
members. -/
def modelDescriptions (model : Model) : List (Nat × String) :=
  (model.description.toList.map fun text => (0, text)) ++
    if model.shape = .struct then fieldDescriptions model else []

/-- Constants have no description. -/
theorem descriptions_constants (name : String) (values : List (String × Expr)) :
    (constants name values).flatMap Item.descriptions = [] := by
  rw [constants, List.flatMap_map]
  exact List.flatMap_eq_nil_iff.2 fun _ _ => rfl

/-- An enumeration has its own description only. -/
theorem descriptions_enumItems (graph : Graph) (model : Model) :
    (enumItems graph model).flatMap Item.descriptions =
      model.description.toList.map fun text => (0, text) := by
  unfold enumItems
  dsimp only
  split
  · rw [List.flatMap_cons, descriptions_constants, List.append_nil]
    rfl
  · rw [List.flatMap_cons, descriptions_constants, List.append_nil]
    rfl

/-- The members of a record have the descriptions of its fields. -/
theorem descriptions_fieldMembers (graph : Graph) (model : Model) :
    (fieldMembers graph model).flatMap Member.descriptions = fieldDescriptions model := by
  have hlength : model.fields.values.length ≤ (fieldIdents model).length :=
    Nat.le_of_eq (length_fieldIdents model).symm
  rw [fieldDescriptions, ← List.map_snd_zip hlength, List.flatMap_map, fieldMembers,
    List.flatMap_map]
  rfl

/-- Embedded members have none. -/
theorem descriptions_embeddedMembers (graph : Graph) (model : Model) :
    (embeddedMembers graph model).flatMap Member.descriptions = [] := by
  refine List.flatMap_eq_nil_iff.2 fun m hm => ?_
  rw [Member.descriptions, doc_of_mem_embeddedMembers hm]
  rfl

/-- **The descriptions of a model's items** are those of the model. -/
theorem descriptions_modelItems (graph : Graph) (model : Model) :
    (modelItems graph model).flatMap Item.descriptions = modelDescriptions model := by
  unfold modelItems modelDescriptions
  cases hshape : model.shape with
  | enumAlias => simp [descriptions_enumItems]
  | plainAlias => simp [Item.descriptions]
  | struct => simp [Item.descriptions, descriptions_fieldMembers]
  | composition =>
    simp only
    split
    · simp [Item.descriptions]
    · simp [Item.descriptions, descriptions_embeddedMembers]
  | empty => simp [Item.descriptions]

/-! ## Methods -/

/-- The parameters are the same, without descriptions. -/
theorem params_undescribed (endpoint : Endpoint) :
    endpoint.undescribed.params = endpoint.params.map Field.undescribed := by
  simp [Endpoint.params, Endpoint.undescribed]

/-- Parameters have the same identifiers. -/
theorem paramIdents_undescribed (endpoint : Endpoint) :
    paramIdents endpoint.undescribed = paramIdents endpoint := by
  rw [paramIdents, paramIdents, params_undescribed, mapIdx_map_undescribed]
  rfl

/-- A search among parameters that does not look at descriptions finds the same one. -/
theorem find?_bound_undescribed {p : Field × String → Bool}
    (hp : ∀ field ident, p (field.undescribed, ident) = p (field, ident))
    (bound : List (Field × String)) :
    (bound.map (Prod.map Field.undescribed id)).find? p =
      (bound.find? p).map (Prod.map Field.undescribed id) := by
  have hcomp : p ∘ Prod.map Field.undescribed id = p := funext fun pair => hp pair.1 pair.2
  rw [List.find?_map, hcomp]

/-- The text for a segment of the path is the same. -/
theorem segmentText_undescribed (graph : Graph) (bound : List (Field × String))
    (segment : Segment) :
    segmentText graph.undescribed (bound.map (Prod.map Field.undescribed id)) segment =
      segmentText graph bound segment := by
  cases segment with
  | literal text => rfl
  | param name =>
    rw [segmentText, segmentText, find?_bound_undescribed fun field ident => ?hkey]
    case hkey => rfl
    generalize bound.find? _ = found
    cases found with
    | none => rfl
    | some pair =>
      simp only [Option.map_some, Prod.map]
      unfold pathText
      rw [wireKind_undescribed_eq]
      rfl

/-- The path is put together in the same way. -/
theorem pathStatements_undescribed (graph : Graph) (endpoint : Endpoint) (idents : List String) :
    pathStatements graph.undescribed endpoint.undescribed idents =
      pathStatements graph endpoint idents := by
  have hbound : endpoint.undescribed.pathParams.zip idents =
      (endpoint.pathParams.zip idents).map (Prod.map Field.undescribed id) :=
    List.zip_map_left ..
  have hquery : endpoint.undescribed.queryParams.isEmpty = endpoint.queryParams.isEmpty := by
    simp [Endpoint.undescribed]
  unfold pathStatements
  simp only [hbound, segmentText_undescribed, hquery]
  rfl

/-- A parameter is put into the query in the same way. -/
theorem queryStatement_undescribed (graph : Graph) (field : Field) (ident : String) :
    queryStatement graph.undescribed field.undescribed ident =
      queryStatement graph field ident := by
  unfold queryStatement
  rw [wireKind_undescribed_eq]
  rfl

/-- The query is put together in the same way. -/
theorem queryStatements_undescribed (graph : Graph) (endpoint : Endpoint) (idents : List String) :
    queryStatements graph.undescribed endpoint.undescribed idents =
      queryStatements graph endpoint idents := by
  have hbound : endpoint.undescribed.queryParams.zip idents =
      (endpoint.queryParams.zip idents).map (Prod.map Field.undescribed id) :=
    List.zip_map_left ..
  have hquery : endpoint.undescribed.queryParams.isEmpty = endpoint.queryParams.isEmpty := by
    simp [Endpoint.undescribed]
  have hstatements : ((fun pair : Field × String =>
      queryStatement graph.undescribed pair.1 pair.2) ∘ Prod.map Field.undescribed id) =
        fun pair => queryStatement graph pair.1 pair.2 :=
    funext fun pair => queryStatement_undescribed graph pair.1 pair.2
  unfold queryStatements
  simp only [hbound, hquery, List.map_map, hstatements]

/-- The body of a method is the same. -/
theorem methodBody_undescribed (graph : Graph) (endpoint : Endpoint) :
    methodBody graph.undescribed endpoint.undescribed = methodBody graph endpoint := by
  have hcount : endpoint.undescribed.pathParams.length = endpoint.pathParams.length := by
    simp [Endpoint.undescribed]
  unfold methodBody
  simp only [paramIdents_undescribed, hcount, pathStatements_undescribed,
    queryStatements_undescribed]
  rfl

/-- **The method of an endpoint without descriptions** differs in its comment alone. -/
theorem methodOf_undescribed (graph : Graph) (endpoint : Endpoint) :
    methodOf graph.undescribed endpoint.undescribed =
      { methodOf graph endpoint with doc := methodDoc endpoint.undescribed } := by
  have htypes : endpoint.undescribed.params.map (paramType graph.undescribed) =
      endpoint.params.map (paramType graph) := by
    rw [params_undescribed, List.map_map]
    refine List.map_congr_left fun field _ => ?_
    simp only [Function.comp_apply, paramType, typeOf_undescribed_eq]
    rfl
  have hbody : bodyType graph.undescribed = bodyType graph := by
    funext payload
    rw [bodyType, bodyType, typeOf_undescribed_eq]
  have hresult : responseType graph.undescribed endpoint.undescribed =
      responseType graph endpoint := by
    unfold responseType
    rw [typeOf_undescribed_eq]
    rfl
  simp only [methodOf, paramIdents_undescribed, htypes, hbody, hresult, methodBody_undescribed]
  rfl

/-- The descriptions that are printed for an endpoint: its own with an empty line behind it. -/
def methodDescriptions (endpoint : Endpoint) : List (Nat × String) :=
  match endpoint.description with
  | some text => [(1, text), (1, "")]
  | none => []

/-- The first line of a method, with its comment. -/
theorem commented_method (graph : Graph) (endpoint : Endpoint) :
    Commented (Function.declarationAt 1 { methodOf graph endpoint with body := [] })
      (Function.declarationAt 1
        { methodOf graph.undescribed endpoint.undescribed with body := [] })
      (methodDescriptions endpoint) := by
  have hdoc : methodDoc endpoint =
      (methodDescriptions endpoint).map Prod.snd ++ methodDoc endpoint.undescribed := by
    unfold methodDoc methodDescriptions
    cases endpoint.description <;> rfl
  have hlevel : ((methodDescriptions endpoint).map Prod.snd).map (fun text => (1, text)) =
      methodDescriptions endpoint := by
    unfold methodDescriptions
    cases endpoint.description <;> rfl
  have hmethod := Function.commented_declarationAt 1 { methodOf graph endpoint with body := [] } hdoc
  rw [hlevel] at hmethod
  rw [methodOf_undescribed]
  exact hmethod

/-! ## The modules -/

/-- **The module of the models** is its code without descriptions, with those of the models in
comments. -/
theorem commented_modelsModule (graph : Graph) :
    Commented (modelsModule graph).toText (modelsModule graph.undescribed).toText
      (graph.toList.flatMap modelDescriptions) := by
  have hitems : graph.undescribed.toList.flatMap (modelItems graph.undescribed) =
      (graph.toList.flatMap (modelItems graph)).map Item.undescribed := by
    rw [Graph.toList_undescribed, List.flatMap_map, List.map_flatMap]
    simp only [modelItems_undescribed]
  have hblocks : (graph.toList.flatMap (modelItems graph)).flatMap Item.descriptions =
      graph.toList.flatMap modelDescriptions := by
    rw [List.flatMap_assoc]
    simp only [descriptions_modelItems]
  have hdecls : Commented
      ("\n".intercalate (((graph.toList.flatMap (modelItems graph)).map Decl.item).map Decl.toText))
      ("\n".intercalate
        ((((graph.toList.flatMap (modelItems graph)).map Item.undescribed).map Decl.item).map
          Decl.toText))
      ((graph.toList.flatMap (modelItems graph)).flatMap Item.descriptions) := by
    rw [List.map_map, List.map_map, List.map_map]
    exact .intercalate fun item _ => item.commented
  rw [hblocks, ← hitems] at hdecls
  exact (modelsModule graph).commented hdecls

/-- **The module of the client** is its code without descriptions, with those of the endpoints in
comments. -/
theorem commented_clientModule (graph : Graph) (endpoints : List Endpoint) :
    Commented (clientModule graph endpoints).toText
      (clientModule graph.undescribed (endpoints.map Endpoint.undescribed)).toText
      (endpoints.flatMap methodDescriptions) := by
  have hinterface : Commented
      (Decl.interface "ApiClient" (some "Operations of the API.")
        ((endpoints.map (methodOf graph)).map fun m => { m with body := [] })).toText
      (Decl.interface "ApiClient" (some "Operations of the API.")
        (((endpoints.map Endpoint.undescribed).map (methodOf graph.undescribed)).map fun m =>
          { m with body := [] })).toText
      (endpoints.flatMap methodDescriptions) := by
    rw [List.map_map, List.map_map, List.map_map]
    exact Decl.commented_interface _ _ fun endpoint _ => commented_method graph endpoint
  -- the bodies stand in the implementation, where no method has a comment
  have hmethods : ((endpoints.map Endpoint.undescribed).map (methodOf graph.undescribed)).map
      (fun m => { m with doc := [] }) =
        (endpoints.map (methodOf graph)).map fun m => { m with doc := [] } := by
    rw [List.map_map, List.map_map, List.map_map]
    refine List.map_congr_left fun endpoint _ => ?_
    simp only [Function.comp_apply, methodOf_undescribed]
  have himplementation : Commented
      (Decl.implementation (some "ApiClient") "Client"
        ((endpoints.map (methodOf graph)).map fun m => { m with doc := [] })).toText
      (Decl.implementation (some "ApiClient") "Client"
        (((endpoints.map Endpoint.undescribed).map (methodOf graph.undescribed)).map fun m =>
          { m with doc := [] })).toText [] := by
    rw [hmethods]
    exact .append_line _ 0 _
  have hbreak : Commented "\n" "\n" [] := .lines ""
  have hdecls := (hinterface.append hbreak).append himplementation
  rw [List.append_nil, List.append_nil] at hdecls
  exact (clientModule graph endpoints).commented hdecls

/-- **Descriptions stay in their comments.**  Line by line the modules are those for the graph and
the endpoints without descriptions, with the comment of every description between lines; so a line
that has anything of a description has the mark of a comment.  Every line of a comment has it, and
behind the marks stands what the description says. -/
theorem descriptions_contained (graph : Graph) (endpoints : List Endpoint) :
    Commented (modelsModule graph).toText (modelsModule graph.undescribed).toText
      (graph.toList.flatMap modelDescriptions) ∧
    Commented (clientModule graph endpoints).toText
      (clientModule graph.undescribed (endpoints.map Endpoint.undescribed)).toText
      (endpoints.flatMap methodDescriptions) ∧
    (∀ row ∈ Text.rows (modelsModule graph).toText.toList,
      row ∈ Text.rows (modelsModule graph.undescribed).toText.toList ∨ HasMark row) ∧
    (∀ row ∈ Text.rows (clientModule graph endpoints).toText.toList,
      row ∈ Text.rows
        (clientModule graph.undescribed (endpoints.map Endpoint.undescribed)).toText.toList ∨
        HasMark row) ∧
    ∀ (level : Nat) (description : String),
      (∀ row ∈ Text.rows (comment level description).toList, HasMark row) ∧
      (Text.rows (comment level description).toList).map behindMark? =
        (describedLines description).map some := by
  have hmodels := commented_modelsModule graph
  have hclient := commented_clientModule graph endpoints
  refine ⟨hmodels, hclient, fun row => hmodels.row_cases, fun row => hclient.row_cases, ?_⟩
  intro level description
  exact ⟨fun row => hasMark_of_mem_rows_comment, read_comment level description⟩

end Sdk

end ClientForge
