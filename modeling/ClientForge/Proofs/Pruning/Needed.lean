/-
  Pruning keeps what the endpoints need, and each kept model defines one type.

  What is needed is said here by rules, without lists and without a search: an endpoint mentions the
  names in its types, and a name is needed if an endpoint mentions it or a needed model refers to it
  (`Needed`).  The program has lists of these names and a search along them.  The lists hold the same
  names, and the search visits what can be reached, so the names visited are the needed ones that have a
  model (`needed_iff_reachable`), and the pruned graph gives a needed name what the graph gave, and any
  other name nothing (`Graph.get?_prune_eq_some_iff`).  Cycles and names without a model need no
  argument of their own: the rules allow for both.

  The types of the models' module are read off its declarations: everything but a constant defines a
  type.  A model of any shape gives exactly one such item, under its own name (`typeNames_modelItems`),
  so the types of the module are the names of the kept models, in their order, each once.

  The main result puts the two together (`Sdk.prune_keeps_needed`).
-/
import ClientForge.Endpoint.Pruning
import ClientForge.Proofs.Graph.Reach
import ClientForge.Proofs.Models.References
import ClientForge.Sdk.Models

namespace ClientForge

/-! ## Names that are mentioned -/

/-- `endpoint.Mentions name` — the type of its response, its request or a parameter does. -/
inductive Endpoint.Mentions (endpoint : Endpoint) (name : String) : Prop
  | response (token : TypeToken) (hr : endpoint.response = some token) (h : token.Mentions name)
  | request (payload : Payload) (hr : endpoint.request = some payload)
      (h : payload.type.Mentions name)
  | param (field : Field) (hp : field ∈ endpoint.params) (h : field.type.Mentions name)

/-- `Needed graph endpoints name` — an endpoint mentions the name, or a needed model of the graph
refers to it. -/
inductive Needed (graph : Graph) (endpoints : List Endpoint) : String → Prop
  | mentioned {name : String} (endpoint : Endpoint) (he : endpoint ∈ endpoints)
      (h : endpoint.Mentions name) : Needed graph endpoints name
  | referred {owner name : String} {model : Model} (howner : Needed graph endpoints owner)
      (hmodel : graph.get? owner = some model) (h : model.RefersTo name) :
      Needed graph endpoints name

/-! ## The lists of the search hold these names -/

/-- The types of an endpoint mention what the endpoint does. -/
theorem Endpoint.mem_types {endpoint : Endpoint} {name : String} :
    (∃ token ∈ endpoint.types, token.Mentions name) ↔ endpoint.Mentions name := by
  simp only [types, List.mem_append, Option.mem_toList, List.mem_map]
  constructor
  · rintro ⟨token, (h | ⟨payload, hr, rfl⟩) | ⟨field, hp, rfl⟩, hm⟩
    · exact .response token h hm
    · exact .request payload hr hm
    · exact .param field hp hm
  · intro h
    cases h with
    | response token hr h => exact ⟨token, Or.inl (Or.inl hr), h⟩
    | request payload hr h => exact ⟨payload.type, Or.inl (Or.inr ⟨payload, hr, rfl⟩), h⟩
    | param field hp h => exact ⟨field.type, Or.inr ⟨field, hp, rfl⟩, h⟩

/-- The names that the search starts from are those that an endpoint mentions. -/
theorem mem_mentionedNames {endpoints : List Endpoint} {name : String} :
    name ∈ mentionedNames endpoints ↔ ∃ endpoint ∈ endpoints, endpoint.Mentions name := by
  simp only [mentionedNames, List.mem_flatMap, List.mem_filterMap,
    TypeToken.innermost?_eq_some_iff, Endpoint.mem_types]

/-- **Being needed is being reached** from the mentioned names along the references. -/
theorem needed_iff_reachable {graph : Graph} {endpoints : List Endpoint} {name : String} :
    Needed graph endpoints name ↔
      Graph.Reachable graph Model.references (mentionedNames endpoints) name := by
  constructor
  · intro h
    induction h with
    | mentioned endpoint he h => exact .start (mem_mentionedNames.2 ⟨endpoint, he, h⟩)
    | referred _ hmodel h ih => exact .step ih hmodel (Model.mem_references.2 h)
  · intro h
    induction h with
    | start h =>
      obtain ⟨endpoint, he, h⟩ := mem_mentionedNames.1 h
      exact .mentioned endpoint he h
    | step _ hmodel h ih => exact .referred ih hmodel (Model.mem_references.1 h)

/-! ## What pruning keeps -/

namespace Graph

/-- **The pruned graph:** it gives a needed name what the graph gave, and any other name
nothing. -/
theorem get?_prune_eq_some_iff {graph : Graph} {endpoints : List Endpoint} {name : String}
    {model : Model} :
    (graph.prune endpoints).get? name = some model ↔
      graph.get? name = some model ∧ Needed graph endpoints name := by
  rw [prune, get?_filter, needed_iff_reachable]
  by_cases h : name ∈ graph.reach Model.references (mentionedNames endpoints)
  · have hreach := (mem_reach.1 h).2
    simp [h, hreach]
  · -- a name that was not visited but can be reached has no model
    constructor
    · intro hget
      simp [h] at hget
    · rintro ⟨hmodel, hreach⟩
      exact absurd (mem_reach.2 ⟨⟨model, hmodel⟩, hreach⟩) h

/-- A needed name gives what it gave. -/
theorem get?_prune_of_needed {graph : Graph} {endpoints : List Endpoint} {name : String}
    (h : Needed graph endpoints name) : (graph.prune endpoints).get? name = graph.get? name := by
  apply Option.ext
  intro model
  rw [get?_prune_eq_some_iff]
  exact and_iff_left h

/-- The models kept are those of needed names. -/
theorem mem_toList_prune {graph : Graph} {endpoints : List Endpoint} {model : Model} :
    model ∈ (graph.prune endpoints).toList ↔
      model ∈ graph.toList ∧ Needed graph endpoints model.name := by
  rw [mem_toList, get?_prune_eq_some_iff, mem_toList]

end Graph

/-! ## The types that are defined -/

/-- The name of the type that an item defines; a constant defines none. -/
def Code.Item.typeName? : Code.Item → Option String
  | .typeAlias name .. => some name
  | .struct name .. => some name
  | .textType name _ => some name
  | .constant .. => none

/-- The name of the type that a declaration of a module defines. -/
def Code.Decl.typeName? : Code.Decl → Option String
  | .item i => i.typeName?
  | .interface .. => none
  | .implementation .. => none
  | .function _ => none

namespace Sdk

open ClientForge.Code

/-- Constants define no type. -/
theorem typeNames_constants (name : String) (values : List (String × Expr)) :
    (constants name values).filterMap Item.typeName? = [] := by
  rw [constants, List.filterMap_eq_nil_iff]
  intro item hitem
  obtain ⟨⟨ident, literal, value⟩, -, rfl⟩ := List.mem_map.1 hitem
  rfl

/-- **One type for each model:** whatever its shape, its items define the type of its name and no
other. -/
theorem typeNames_modelItems (graph : Graph) (model : Model) :
    (modelItems graph model).filterMap Item.typeName? = [model.name] := by
  unfold modelItems
  cases model.shape with
  | enumAlias =>
    show (enumItems graph model).filterMap Item.typeName? = [model.name]
    unfold enumItems
    by_cases h : model.isStringEnum = true
    · simp [h, Item.typeName?, typeNames_constants]
    · simp [h, Item.typeName?, typeNames_constants]
  | plainAlias => rfl
  | struct => rfl
  | composition =>
    by_cases h : (embeddedMembers graph model).isEmpty = true
    · simp [h, Item.typeName?]
    · simp [h, Item.typeName?]
  | empty => rfl

/-- The types of the models' module are the models' own, in order. -/
theorem typeNames_modelsModule (graph : Graph) :
    (modelsModule graph).decls.filterMap Decl.typeName? = graph.toList.map Model.name := by
  show ((graph.toList.flatMap (modelItems graph)).map Decl.item).filterMap Decl.typeName? = _
  rw [List.filterMap_map]
  show (graph.toList.flatMap (modelItems graph)).filterMap Item.typeName? = _
  induction graph.toList with
  | nil => rfl
  | cons model rest ih =>
    rw [List.flatMap_cons, List.filterMap_append, typeNames_modelItems, ih]
    rfl

/-- **Pruning keeps exactly the needed models, and each is emitted once.**  The pruned graph gives
a name a model if the graph gave that very model and the name is needed; the types of its module
are the names of the kept models in strictly increasing order, so there is one for each. -/
theorem prune_keeps_needed (graph : Graph) (endpoints : List Endpoint) :
    (∀ name model, (graph.prune endpoints).get? name = some model ↔
      graph.get? name = some model ∧ Needed graph endpoints name) ∧
    (∀ model, model ∈ (graph.prune endpoints).toList ↔
      model ∈ graph.toList ∧ Needed graph endpoints model.name) ∧
    (modelsModule (graph.prune endpoints)).decls.filterMap Decl.typeName? =
      (graph.prune endpoints).toList.map Model.name ∧
    ((graph.prune endpoints).toList.map Model.name).Pairwise (· < ·) := by
  refine ⟨fun name model => Graph.get?_prune_eq_some_iff, fun model => Graph.mem_toList_prune,
    typeNames_modelsModule _, ?_⟩
  rw [Graph.map_name_toList]
  exact Graph.names_pairwise _

end Sdk

end ClientForge
