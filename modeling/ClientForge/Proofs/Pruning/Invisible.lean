/-
  Pruning is invisible in the code that is generated.

  Code is generated from the pruned graph, which has the models that the endpoints need and no other.
  What would be generated from the whole graph is the same, as far as it is generated at all.

  The needed names are closed under references, and on them the pruned graph agrees with the whole one
  (`agreeOn_prune`).  For graphs that agree it is shown piece by piece that what is generated is equal:

  * the items of a kept model — its members with their types and boxes, its embedded children, its
    constants (`modelItems_eq`);
  * the method of an endpoint, its signature and its body (`methodOf_eq`);
  * the values made up for its test, and the one that stands for a missing example (`dummyArg_eq`,
    `sentinel?_eq`).

  Each piece asks of the graph only about names that it has been told are kept, so the assumptions say
  which names these are: those that a token mentions, that a model refers to, that an endpoint mentions.

  That every enumeration is another name for a scalar is assumed of the whole graph
  (`Sdk.generated_prune_eq`).  The witness has an unneeded enumeration whose literal is the name of a
  model, and a record that leads back to itself.
-/
import ClientForge.Proofs.Pruning.Agreement
import ClientForge.Proofs.Pruning.Needed
import ClientForge.Sdk.Client
import ClientForge.Sdk.Tests

namespace ClientForge

namespace Sdk

open ClientForge.Code

variable {kept : String → Prop} {small large : Graph}

/-! ## The items of a model -/

/-- The type of a field is the same, boxed or not. -/
theorem fieldType_eq (h : AgreeOn kept small large) (owner : String) {field : Field}
    (hf : ∀ name, field.type.Mentions name → kept name) :
    fieldType small owner field = fieldType large owner field := by
  unfold fieldType
  rw [typeOf_eq h hf]
  cases htype : field.type with
  | named target =>
    have hk : kept target := hf target (by rw [htype]; exact .named target)
    simp only [holds_eq h hk]
  | primitive p => rfl
  | array item => rfl
  | map value => rfl
  | any => rfl

/-- The members of a record are the same. -/
theorem fieldMembers_eq (h : AgreeOn kept small large) {model : Model}
    (hrefs : ∀ target, model.RefersTo target → kept target) :
    fieldMembers small model = fieldMembers large model := by
  unfold fieldMembers
  apply List.map_congr_left
  rintro ⟨ident, field⟩ hmem
  have hf : field ∈ model.fields.values := (List.of_mem_zip hmem).2
  simp only [fieldType_eq h model.name fun name hm => hrefs name (.field field hf hm)]

/-- The members of a composition are the same. -/
theorem embeddedMembers_eq (h : AgreeOn kept small large) {model : Model}
    (hrefs : ∀ target, model.RefersTo target → kept target) (he : model.isEnum = false) :
    embeddedMembers small model = embeddedMembers large model := by
  unfold embeddedMembers
  rw [embedded_eq h hrefs he]
  apply List.map_congr_left
  rintro ⟨ident, child⟩ hmem
  have hc : child ∈ model.children := (mem_embedded.1 (List.of_mem_zip hmem).2).1
  simp only [holds_eq h (hrefs child (.child he hc))]

/-- The items of an enumeration are the same. -/
theorem enumItems_eq (h : AgreeOn kept small large) {model : Model}
    (hrefs : ∀ target, model.RefersTo target → kept target) :
    enumItems small model = enumItems large model := by
  unfold enumItems
  cases ha : model.aliasOf with
  | none => rfl
  | some token =>
    have ht : ∀ name, token.Mentions name → kept name :=
      fun name hm => hrefs name (.viaAlias _ ha hm)
    simp only [Option.bind_some, typeOf_eq h ht, h.scalarOf?_eq ht]

/-- **The items of a model** of which everything it refers to is kept are the same. -/
theorem modelItems_eq (h : AgreeOn kept small large) {model : Model}
    (hrefs : ∀ target, model.RefersTo target → kept target) (hs : model.SoundEnum) :
    modelItems small model = modelItems large model := by
  unfold modelItems
  cases hshape : model.shape with
  | enumAlias => exact enumItems_eq h hrefs
  | plainAlias =>
    cases ha : model.aliasOf with
    | none => rfl
    | some token =>
      have ht : ∀ name, token.Mentions name → kept name :=
        fun name hm => hrefs name (.viaAlias _ ha hm)
      simp only [typeOf_eq h ht]
  | struct => simp only [fieldMembers_eq h hrefs]
  | composition =>
    have he := Model.isEnum_of_shape_composition hs hshape
    simp only [embeddedMembers_eq h hrefs he]
  | empty => rfl

/-! ## The method of an endpoint -/

/-- The type of a parameter is the same. -/
theorem paramType_eq (h : AgreeOn kept small large) {field : Field}
    (hf : ∀ name, field.type.Mentions name → kept name) :
    paramType small field = paramType large field := by
  unfold paramType
  rw [typeOf_eq h hf]

/-- A parameter is put into the path in the same way. -/
theorem pathText_eq (h : AgreeOn kept small large) {field : Field}
    (hf : ∀ name, field.type.Mentions name → kept name) (ident : String) :
    pathText small field ident = pathText large field ident := by
  unfold pathText
  rw [wireKind_eq h hf, wireKind_eq h fun name hm => hf name (TypeToken.mentions_of_element hm)]

/-- A parameter is put into the query in the same way. -/
theorem queryStatement_eq (h : AgreeOn kept small large) {field : Field}
    (hf : ∀ name, field.type.Mentions name → kept name) (ident : String) :
    queryStatement small field ident = queryStatement large field ident := by
  unfold queryStatement
  rw [wireKind_eq h hf, wireKind_eq h fun name hm => hf name (TypeToken.mentions_of_element hm)]

section Endpoint

variable (h : AgreeOn kept small large) {endpoint : Endpoint}
  (he : ∀ name, endpoint.Mentions name → kept name)

include h he

/-- The path is put together in the same way. -/
theorem pathStatements_eq (idents : List String) :
    pathStatements small endpoint idents = pathStatements large endpoint idents := by
  have hseg : ∀ segment : Segment,
      segmentText small (endpoint.pathParams.zip idents) segment =
        segmentText large (endpoint.pathParams.zip idents) segment := by
    intro segment
    cases segment with
    | literal text => rfl
    | param name =>
      simp only [segmentText]
      split
      · rename_i field ident hfind
        have hf : field ∈ endpoint.pathParams :=
          (List.of_mem_zip (List.mem_of_find?_eq_some hfind)).1
        exact pathText_eq h (fun x hm => he x (.param field (List.mem_append_left _ hf) hm)) ident
      · rfl
  simp only [pathStatements, hseg]

/-- The query is put together in the same way. -/
theorem queryStatements_eq (idents : List String) :
    queryStatements small endpoint idents = queryStatements large endpoint idents := by
  unfold queryStatements
  split
  · rfl
  · congr 2
    apply List.map_congr_left
    rintro ⟨field, ident⟩ hmem
    have hf : field ∈ endpoint.queryParams := (List.of_mem_zip hmem).1
    exact queryStatement_eq h
      (fun x hm => he x (.param field (List.mem_append_right _ hf) hm)) ident

/-- The type of what is given is the same. -/
theorem responseType_eq : responseType small endpoint = responseType large endpoint := by
  unfold responseType
  cases hr : endpoint.response with
  | none => rfl
  | some token => exact typeOf_eq h fun name hm => he name (.response token hr hm)

/-- **The method of an endpoint** whose names are all kept is the same. -/
theorem methodOf_eq : methodOf small endpoint = methodOf large endpoint := by
  have hparams : endpoint.params.map (paramType small) = endpoint.params.map (paramType large) :=
    List.map_congr_left fun field hf => paramType_eq h fun name hm => he name (.param field hf hm)
  have hbody : endpoint.request.toList.map (fun payload => ("body", bodyType small payload)) =
      endpoint.request.toList.map fun payload => ("body", bodyType large payload) := by
    apply List.map_congr_left
    intro payload hp
    have hr : endpoint.request = some payload := Option.mem_toList.1 hp
    have ht : ∀ name, payload.type.Mentions name → kept name :=
      fun name hm => he name (.request payload hr hm)
    simp only [bodyType, typeOf_eq h ht]
  have hstatements : methodBody small endpoint = methodBody large endpoint := by
    simp only [methodBody, pathStatements_eq h he, queryStatements_eq h he]
  unfold methodOf
  rw [hparams, hbody, responseType_eq h he, hstatements]

/-! ## Values made up for tests -/

/-- The value that stands for a missing example is the same. -/
theorem sentinel?_eq : sentinel? small endpoint = sentinel? large endpoint := by
  unfold sentinel?
  cases hr : endpoint.response with
  | none => rfl
  | some token =>
    have ht : ∀ name, token.Mentions name → kept name :=
      fun name hm => he name (.response token hr hm)
    cases token with
    | array item =>
      have hi : ∀ name, item.Mentions name → kept name := fun name hm => ht name (.array hm)
      simp only [Option.map_some, typeOf_eq h hi]
    | primitive p => rfl
    | named name => simp only [Option.map_some, typeOf_eq h ht]
    | map value => simp only [Option.map_some, typeOf_eq h ht]
    | any => rfl

omit he

/-- The value made up for a single value is the same. -/
theorem dummyScalar_eq {token : TypeToken} (ht : ∀ name, token.Mentions name → kept name) :
    dummyScalar small token = dummyScalar large token := by
  rw [dummyScalar, dummyScalar, h.scalarOf?_eq ht]

/-- So is the one for a list. -/
theorem dummyValue_eq {token : TypeToken} (ht : ∀ name, token.Mentions name → kept name) :
    dummyValue small token = dummyValue large token := by
  induction token with
  | array item ih => rw [dummyValue, dummyValue, ih fun name hm => ht name (.array hm)]
  | named name =>
    have hk : kept name := ht name (.named name)
    rw [dummyValue, dummyValue, h.isStringEnum_eq hk, dummyScalar_eq h ht]
  | primitive p => exact dummyScalar_eq h ht
  | map value _ => exact dummyScalar_eq h ht
  | any => exact dummyScalar_eq h ht

/-- So is the argument for a parameter. -/
theorem dummyArg_eq {field : Field} (hf : ∀ name, field.type.Mentions name → kept name) :
    dummyArg small field = dummyArg large field := by
  unfold dummyArg
  rw [paramType_eq h hf, dummyValue_eq h hf]

end Endpoint

end Sdk

/-! ## The pruned graph -/

/-- On the needed names the pruned graph agrees with the whole one. -/
theorem agreeOn_prune {graph : Graph} (hs : graph.SoundEnums) (endpoints : List Endpoint) :
    AgreeOn (Needed graph endpoints) (graph.prune endpoints) graph where
  get? hk := Graph.get?_prune_of_needed hk
  closed hk hmodel _ href := .referred hk hmodel href
  sound _ hmodel := hs.of_get? hmodel

/-- **Pruning is invisible to code generation.**  Where every enumeration is another name for a
scalar, the items of each kept model, and the method, the fallback and the test arguments of each
endpoint, come out the same from the pruned graph as from the whole one. -/
theorem Sdk.generated_prune_eq (graph : Graph) (endpoints : List Endpoint)
    (hs : graph.SoundEnums) :
    (∀ model ∈ (graph.prune endpoints).toList,
      modelItems (graph.prune endpoints) model = modelItems graph model) ∧
    ∀ endpoint ∈ endpoints,
      methodOf (graph.prune endpoints) endpoint = methodOf graph endpoint ∧
      sentinel? (graph.prune endpoints) endpoint = sentinel? graph endpoint ∧
      ∀ param ∈ endpoint.params,
        dummyArg (graph.prune endpoints) param = dummyArg graph param := by
  have h := agreeOn_prune hs endpoints
  constructor
  · intro model hmodel
    -- a kept model is one of the whole graph, so it refers to needed names only
    obtain ⟨hmem, hneeded⟩ := Graph.mem_toList_prune.1 hmodel
    have hget : graph.get? model.name = some model := Graph.mem_toList.1 hmem
    exact modelItems_eq h (h.closed hneeded hget) (hs model hmem)
  · intro endpoint hendpoint
    have he : ∀ name, endpoint.Mentions name → Needed graph endpoints name :=
      fun name hm => .mentioned endpoint hendpoint hm
    refine ⟨methodOf_eq h he, sentinel?_eq h he, fun param hparam => ?_⟩
    exact dummyArg_eq h fun name hm => he name (.param param hparam hm)

/-- A record that leads back to itself and has a state, an enumeration that goes by two names, and
an enumeration that nothing refers to. -/
def Sdk.loopedGraph : Graph := .ofList [
  { name := "Node"
    fields := .ofList [("next", { key := "next", type := .named "Node", required := true }),
      ("state", { key := "state", type := .named "Status" })] },
  { name := "Status", aliasOf := some (.named "State") },
  { name := "State", aliasOf := some (.primitive .string), isEnum := true,
    children := .ofList ["off", "on"] },
  { name := "Unused", aliasOf := some (.primitive .int32), isEnum := true,
    children := .ofList ["Node"] }]

/-- An endpoint that gives a list of nodes and filters them by state. -/
def Sdk.listNodes : Endpoint where
  name := "ListNodes"
  method := .get
  route := "/nodes"
  response := some (.array (.named "Node"))
  queryParams := [.param "state" (.named "Status") .query false]

/-- The graph is sound, and pruning leaves its code as it is. -/
theorem Sdk.generated_prune_eq_loopedGraph :
    loopedGraph.SoundEnums ∧
    (∀ model ∈ (loopedGraph.prune [listNodes]).toList,
      modelItems (loopedGraph.prune [listNodes]) model = modelItems loopedGraph model) ∧
    ∀ endpoint ∈ [listNodes],
      methodOf (loopedGraph.prune [listNodes]) endpoint = methodOf loopedGraph endpoint ∧
      sentinel? (loopedGraph.prune [listNodes]) endpoint = sentinel? loopedGraph endpoint ∧
      ∀ param ∈ endpoint.params,
        dummyArg (loopedGraph.prune [listNodes]) param = dummyArg loopedGraph param :=
  have hs : loopedGraph.SoundEnums := by decide +kernel
  ⟨hs, generated_prune_eq loopedGraph [listNodes] hs⟩

end ClientForge
