/-
  What the type names in generated code denote.

  Generated code writes the names of models, of standard types and of the crate's own types side by
  side, and the names of models come from a document.  Nothing keeps a document from calling a
  component `Error` or `Vec`.  What a name denotes then is settled by the scopes of the language, from
  the inside out (`Module.meaning`):

  1. the keyword `Self` is read before any name, and stands for the type that is being declared;
  2. what the module defines or imports under the name;
  3. the models, where they are imported all together by a star;
  4. what every module knows without an import.

  So a model may take the name of a standard type wherever models are known, since the star goes before
  what is always known; and the crate's own types hide a model where both are, since a name that is
  imported by itself goes before the star.  A model called `Self` cannot be written at all.

  Every type in a field or a signature is listed with what its innermost name was generated for
  (`Sdk.Surface.emitted`), and the list is shown to be complete (`types_emitted`): without that, a
  statement about all places would be one about those that happen to be listed.  What is written at a
  place is told by rules (`Emits`), and from these it follows what a name can have been generated for
  (`Expected`): a standard type, a model of the graph, or a type of the crate that the module knows.

  The names at a place denote what they were generated for exactly if no model captures one of them
  (`denotes_iff`), and only names in use can be captured (`nameInUse_of_captures`).  Both are in the
  main result (`Sdk.typeNames_denote_iff`); the last section has a component called `Error`.
-/
import ClientForge.Proofs.Hoisting.Names
import ClientForge.Proofs.Models.Boxing
import ClientForge.Sdk.Generate

namespace ClientForge

open ClientForge.Naming

/-! ## Scopes -/

namespace Code

/-- What a type name denotes. -/
inductive Meaning where
  /-- The type of a model. -/
  | model (name : String)
  /-- A type of the crate that does not come from a document. -/
  | fixed (name : String)
  /-- A type of the language or its standard library, or one that is named by its path. -/
  | standard (name : String)
  /-- The type that the declaration around it is about: what the keyword `Self` stands for. -/
  | own
deriving DecidableEq

/-- The types and interfaces of the crate that do not come from a document. -/
def crateTypes : List String := ["Error", "ApiClient", "Client", "MockTransport"]

/-- The names that an import brings into scope; a star is all names of the module. -/
def importedNames (path : String) : List String :=
  let names := (Text.lastPart ':' path.toList).filter fun c => !"\x7b\x7d ".toList.contains c
  (Text.split ',' names).map String.ofList

/-- The name of the interface that a declaration defines. -/
def Decl.interfaceName? : Decl → Option String
  | .interface name .. => some name
  | _ => none

namespace Module

/-- The types that the items of the module define. -/
def typeNames (m : Module) : List String := m.decls.filterMap Decl.typeName?

/-- The crate's own types that the module knows by name: it imports them, or it defines them. -/
def fixedNames (m : Module) : List String :=
  (m.uses.flatMap importedNames).filter crateTypes.contains
    ++ m.decls.filterMap Decl.interfaceName?

/-- What a type name denotes in the module, `models` being the module of the models.  A keyword is
read before any name is looked up, so no item and no import can give `Self` another meaning. -/
def meaning (models m : Module) (name : String) : Meaning :=
  if name = "Self" then .own
  else if name ∈ m.typeNames then .model name
  else if name ∈ m.fixedNames then .fixed name
  else if "crate::models::*" ∈ m.uses ∧ name ∈ models.typeNames then .model name
  else .standard name

end Module

/-! ## Types in code -/

/-- The names in a type in their order, each with what it was generated for, `leaf` being that of
the innermost one. -/
def Ty.occurrences (leaf : Meaning) : Ty → List (String × Meaning)
  | .path name => [(name, leaf)]
  | .vec item => ("Vec", .standard "Vec") :: item.occurrences leaf
  | .option inner => ("Option", .standard "Option") :: inner.occurrences leaf
  | .box inner => ("Box", .standard "Box") :: inner.occurrences leaf
  | .map value => ("String", .standard "String") :: value.occurrences leaf
  | .result value =>
    ("Result", .standard "Result") :: value.occurrences leaf ++ [("Error", .fixed "Error")]
  | .unit => []
  | .selfRef => []

/-- The types that stand in an item. -/
def Item.types : Item → List Ty
  | .typeAlias _ type _ => [type]
  | .struct _ _ members => members.map Member.type
  | .textType .. => []
  | .constant _ type _ => [type]

/-- The types in the first line of a function. -/
def Function.types (f : Function) : List Ty :=
  f.params.map Prod.snd ++ (if f.result = .unit then [] else [f.result])

/-- The types that the local names of a function are given. -/
def Function.annotations (f : Function) : List Ty :=
  f.body.filterMap fun
    | .letIn _ _ type _ => type
    | _ => none

/-- The types that stand in the fields and signatures of a declaration; of a function that is no
method also those of its local names. -/
def Decl.types : Decl → List Ty
  | .item i => i.types
  | .interface _ _ methods => methods.flatMap Function.types
  | .implementation _ _ methods => methods.flatMap Function.types
  | .function f => f.types ++ f.annotations

/-- The types that stand in the fields and signatures of a module. -/
def Module.types (m : Module) : List Ty := m.decls.flatMap Decl.types

/-- A type in a module, with what its innermost name was generated for. -/
structure Place where
  type : Ty
  leaf : Meaning

/-- The names at the place, each with what it was generated for. -/
def Place.occurrences (place : Place) : List (String × Meaning) := place.type.occurrences place.leaf

/-- **Every name at the place denotes what it was generated for.** -/
def Module.Denotes (models m : Module) (place : Place) : Prop :=
  ∀ occurrence ∈ place.occurrences, models.meaning m occurrence.1 = occurrence.2

/-- A model of that name takes the name of a standard type at the place, or is meant there and
hidden by a type of the crate or by the keyword. -/
def Module.Captures (m : Module) (place : Place) (name : String) : Prop :=
  (name, .standard name) ∈ place.occurrences ∨
    ((name, .model name) ∈ place.occurrences ∧ (name ∈ m.fixedNames ∨ name = "Self"))

end Code

namespace Sdk

open ClientForge.Code

/-! ## What types are generated for -/

/-- What the innermost name in the type of a token was generated for. -/
def meantBy (graph : Graph) : TypeToken → Meaning
  | .primitive p => .standard p.rustName
  | .named name => if graph.contains name then .model name else .standard "serde_json::Value"
  | .array item => meantBy graph item
  | .map value => meantBy graph value
  | .any => .standard "serde_json::Value"

/-- The place of a token's own type. -/
def placeOf (graph : Graph) (token : TypeToken) : Place := ⟨typeOf graph token, meantBy graph token⟩

/-- The types of the members of a record, each with what its innermost name was generated for. -/
def memberPlaces (members : List Member) (leaves : List Meaning) : List Place :=
  List.zipWith (fun member leaf => ⟨member.type, leaf⟩) members leaves

/-- The types in the items of a model. -/
def modelPlaces (graph : Graph) (model : Model) : List Place :=
  match model.shape with
  | .enumAlias =>
    (if model.isStringEnum then [] else [placeOf graph (model.aliasOf.getD .any)])
      ++ (enumItems graph model).tail.map fun _ => ⟨.path model.name, .model model.name⟩
  | .plainAlias => [placeOf graph (model.aliasOf.getD .any)]
  | .struct => memberPlaces (fieldMembers graph model)
    (model.fields.values.map fun field => meantBy graph field.type)
  | .composition =>
    let members := embeddedMembers graph model
    if members.isEmpty then [placeOf graph .any]
    else memberPlaces members ((embedded graph model).map .model)
  | .empty => [placeOf graph (.map .any)]

/-- The types in the signature of an endpoint's method. -/
def signaturePlaces (graph : Graph) (endpoint : Endpoint) : List Place :=
  endpoint.params.map (fun field => ⟨paramType graph field, meantBy graph field.type⟩)
    ++ endpoint.request.toList.map (fun payload =>
      ⟨bodyType graph payload, meantBy graph payload.type⟩)
    ++ [⟨.result (responseType graph endpoint), meantBy graph (endpoint.response.getD .any)⟩]

/-- The types in the tests of an endpoint. -/
def testPlaces (graph : Graph) (endpoint : Endpoint) : List Place :=
  endpoint.response.toList.map (placeOf graph)

/-- A module with the types in its fields and signatures. -/
structure Emitted where
  module : Module
  places : List Place

/-- The emitted modules that know the models. -/
def Surface.emitted (surface : Surface) (config : Config) : List Emitted :=
  let signatures := surface.endpoints.flatMap (signaturePlaces surface.models)
  let tested := surface.endpoints.filter fun endpoint => !config.skips endpoint.route
  [⟨modelsModule surface.models, surface.models.toList.flatMap (modelPlaces surface.models)⟩,
    ⟨clientModule surface.models surface.endpoints, signatures ++ signatures⟩,
    ⟨testsModule surface.models config surface.endpoints,
      tested.flatMap (testPlaces surface.models)⟩]

/-! ## Every type is listed -/

/-- The places of members have the types of the members. -/
theorem map_type_memberPlaces {members : List Member} {leaves : List Meaning}
    (h : members.length = leaves.length) :
    (memberPlaces members leaves).map Place.type = members.map Member.type := by
  induction members generalizing leaves with
  | nil => rfl
  | cons member rest ih =>
    cases leaves with
    | nil => cases h
    | cons leaf others =>
      rw [List.length_cons, List.length_cons, Nat.add_right_cancel_iff] at h
      rw [memberPlaces, List.zipWith_cons_cons, List.map_cons, List.map_cons]
      exact congrArg _ (ih h)

/-- Each constant has the type of its enumeration. -/
theorem types_constants (name : String) (values : List (String × Expr)) :
    (constants name values).flatMap Item.types =
      (constants name values).map fun _ => .path name := by
  unfold constants
  dsimp only
  generalize (Names.empty.claimIdents _).zip values = pairs
  induction pairs with
  | nil => rfl
  | cons pair rest ih =>
    rw [List.map_cons, List.flatMap_cons, ih]
    rfl

/-- The types in the items of a model are those listed. -/
theorem types_modelItems (graph : Graph) (model : Model) :
    (modelItems graph model).flatMap Item.types = (modelPlaces graph model).map Place.type := by
  unfold modelItems modelPlaces
  dsimp only
  -- Shape by shape, both rows are built from the same members; only composition and struct have
  -- more than one place, and there the two zips have the same length.
  cases model.shape with
  | enumAlias =>
    unfold enumItems
    dsimp only
    by_cases h : model.isStringEnum = true
    · simp [h, Item.types, types_constants]
    · cases model.aliasOf <;> simp [h, Item.types, types_constants, placeOf, typeOf]
  | plainAlias => cases model.aliasOf <;> simp [Item.types, placeOf, typeOf]
  | struct =>
    rw [map_type_memberPlaces]
    · simp [Item.types]
    · rw [(emittedFor_fieldMembers graph model).length_eq, List.length_map, List.length_map]
  | composition =>
    by_cases h : (embeddedMembers graph model).isEmpty = true
    · simp [h, Item.types, placeOf, typeOf]
    · simp only [h, Bool.false_eq_true, if_false]
      rw [map_type_memberPlaces]
      · simp [Item.types]
      · rw [(emittedFor_embeddedMembers graph model).length_eq, List.length_map, List.length_map]
  | empty => rfl

/-- The types in the first line of a method are those listed. -/
theorem types_methodOf (graph : Graph) (endpoint : Endpoint) :
    (methodOf graph endpoint).types = (signaturePlaces graph endpoint).map Place.type := by
  have hlength : (paramIdents endpoint).length =
      (endpoint.params.map (paramType graph)).length := by
    rw [paramIdents, Names.length_claimIdents, List.length_mapIdx, List.length_map]
  have hparams : ((paramIdents endpoint).zip (endpoint.params.map (paramType graph))).map Prod.snd =
      endpoint.params.map (paramType graph) :=
    List.map_snd_zip (Nat.le_of_eq hlength.symm)
  simp [Function.types, methodOf, signaturePlaces, hparams, Function.comp_def]

/-- No token has the empty type. -/
theorem typeOf_ne_unit (graph : Graph) (token : TypeToken) : typeOf graph token ≠ .unit := by
  intro hunit
  cases token with
  | named name =>
    rw [typeOf] at hunit
    split at hunit <;> cases hunit
  | _ => cases hunit

/-- Of the tests of an endpoint only the one that is to succeed names a type. -/
theorem types_tests (graph : Graph) (endpoint : Endpoint) :
    [Decl.function (happyPath graph endpoint), .function (unhappyPath graph endpoint)].flatMap
      Decl.types = (testPlaces graph endpoint).map Place.type := by
  have hunhappy : (unhappyPath graph endpoint).annotations = [] := by
    simp [unhappyPath, testFunction, Function.annotations, bindLocal]
  have hhappy : (happyPath graph endpoint).annotations =
      (testPlaces graph endpoint).map Place.type := by
    cases hresponse : endpoint.response with
    | none => simp [happyPath, testFunction, Function.annotations, bindLocal, responseType,
        testPlaces, hresponse]
    | some token => simp [happyPath, testFunction, Function.annotations, bindLocal, responseType,
        testPlaces, hresponse, typeOf_ne_unit, placeOf]
  have hsignatures : (happyPath graph endpoint).types = [] ∧
      (unhappyPath graph endpoint).types = [] := ⟨rfl, rfl⟩
  simp only [List.flatMap_cons, List.flatMap_nil, Decl.types, hsignatures, hhappy, hunhappy,
    List.nil_append, List.append_nil]

/-- **The list of an emitted module is complete:** its types are those of its fields and
signatures, in order. -/
theorem types_emitted {surface : Surface} {config : Config} {emitted : Emitted}
    (h : emitted ∈ surface.emitted config) :
    emitted.module.types = emitted.places.map Place.type := by
  simp only [Surface.emitted, List.mem_cons, List.not_mem_nil, or_false] at h
  rcases h with rfl | rfl | rfl
  · simp only [Module.types, modelsModule, List.flatMap_map, List.flatMap_assoc, Decl.types,
      List.map_flatMap, types_modelItems]
  · have hmethods : (surface.endpoints.map (methodOf surface.models)).flatMap Function.types =
        (surface.endpoints.flatMap (signaturePlaces surface.models)).map Place.type := by
      simp only [List.flatMap_map, List.map_flatMap, types_methodOf]
    rw [List.map_append, ← hmethods]
    simp [Module.types, clientModule, Decl.types, List.flatMap_map, Function.types]
  · simp only [Module.types, testsModule, List.map_flatMap, List.flatMap_assoc, types_tests]

/-! ## What is written at a place -/

/-- The standard types that generated code names without a path and that begin with a capital
letter. -/
def capitalStandards : List String := ["String", "Vec", "Option", "Box", "Result"]

/-- The standard types that generated code names at all. -/
def standardNames : List String :=
  capitalStandards ++ ["serde_json::Value", "chrono::NaiveDate", "chrono::DateTime<chrono::Utc>",
    "i32", "i64", "f32", "f64", "bool"]

/-- `Emits graph place` — the type is that of a token or of a model, possibly boxed or optional. -/
inductive Emits (graph : Graph) : Place → Prop
  | token (token : TypeToken) : Emits graph (placeOf graph token)
  | model {name : String} (h : graph.contains name = true) : Emits graph ⟨.path name, .model name⟩
  | option {type : Ty} {leaf : Meaning} (h : Emits graph ⟨type, leaf⟩) :
      Emits graph ⟨.option type, leaf⟩
  | box {type : Ty} {leaf : Meaning} (h : Emits graph ⟨type, leaf⟩) : Emits graph ⟨.box type, leaf⟩

/-- `Expected graph fixed occurrence` — a name is generated for a standard type, for a model of the
graph, or for one of the types in `fixed`. -/
inductive Expected (graph : Graph) (fixed : List String) : String × Meaning → Prop
  | standard {name : String} (h : name ∈ standardNames) :
      Expected graph fixed (name, .standard name)
  | model {name : String} (h : graph.contains name = true) :
      Expected graph fixed (name, .model name)
  | fixed {name : String} (h : name ∈ fixed) : Expected graph fixed (name, .fixed name)

section Expected

variable {graph : Graph} {fixed : List String}

/-- The names in the type of a token were to be expected. -/
theorem expected_placeOf (token : TypeToken) :
    ∀ occurrence ∈ (placeOf graph token).occurrences, Expected graph fixed occurrence := by
  induction token with
  | primitive p =>
    have hmem : p.rustName ∈ standardNames := by cases p <;> decide
    exact List.forall_mem_singleton.2 (.standard hmem)
  | named name =>
    show ∀ occurrence ∈ (typeOf graph (.named name)).occurrences (meantBy graph (.named name)), _
    rw [typeOf, meantBy]
    cases h : graph.contains name with
    | true => exact List.forall_mem_singleton.2 (.model h)
    | false => exact List.forall_mem_singleton.2 (.standard (by decide))
  | array item ih => exact List.forall_mem_cons.2 ⟨.standard (by decide), ih⟩
  | map value ih => exact List.forall_mem_cons.2 ⟨.standard (by decide), ih⟩
  | any => exact List.forall_mem_singleton.2 (.standard (by decide))

/-- **What is written is what was to be expected.** -/
theorem Emits.expected {place : Place} (h : Emits graph place) :
    ∀ occurrence ∈ place.occurrences, Expected graph fixed occurrence := by
  induction h with
  | token token => exact expected_placeOf token
  | model h => exact List.forall_mem_singleton.2 (.model h)
  | option _ ih => exact List.forall_mem_cons.2 ⟨.standard (by decide), ih⟩
  | box _ ih => exact List.forall_mem_cons.2 ⟨.standard (by decide), ih⟩

end Expected

/-- The type of a field, boxed, optional or neither. -/
theorem emits_fieldType (graph : Graph) (owner : String) (field : Field) :
    Emits graph ⟨fieldType graph owner field, meantBy graph field.type⟩ := by
  rcases fieldType_cases graph owner field with ⟨-, htype⟩ | ⟨-, htype | htype⟩
  · rw [htype]
    exact .option (.box (.token field.type))
  · rw [htype]
    exact .token field.type
  · rw [htype]
    exact .option (.token field.type)

/-- What a composition embeds is a model of the graph. -/
theorem contains_of_mem_embedded {graph : Graph} {model : Model} {child : String}
    (h : child ∈ embedded graph model) : graph.contains child = true := by
  have hobject := embedsWithin_iff.1 (mem_embedded.1 h).2
  cases hobject with
  | struct hmodel | empty hmodel | map hmodel | viaAlias hmodel | child hmodel =>
    exact Graph.contains_iff.2 ⟨_, hmodel⟩

/-- The places of members, if the types of the members are written so. -/
theorem emits_memberPlaces {graph : Graph} {members : List Member} {leaves : List Meaning}
    (h : List.Forall₂ (fun member leaf => Emits graph ⟨member.type, leaf⟩) members leaves) :
    ∀ place ∈ memberPlaces members leaves, Emits graph place := by
  induction h with
  | nil => exact nofun
  | cons hfirst _ ih => exact List.forall_mem_cons.2 ⟨hfirst, ih⟩

/-- **The types in the items of a model,** one case for each shape. -/
theorem emits_modelPlaces {graph : Graph} {model : Model} (hmodel : model ∈ graph.toList) :
    ∀ place ∈ modelPlaces graph model, Emits graph place := by
  -- The model's own name is the one place that every shape may have.
  have hown : Emits graph ⟨.path model.name, .model model.name⟩ :=
    .model (Graph.contains_iff_exists_mem.2 ⟨model, hmodel, rfl⟩)
  unfold modelPlaces
  dsimp only
  cases model.shape with
  | enumAlias =>
    intro place hplace
    rcases List.mem_append.1 hplace with hplace | hplace
    · split at hplace
      · cases hplace
      · rw [List.mem_singleton.1 hplace]
        exact .token _
    · obtain ⟨item, -, rfl⟩ := List.mem_map.1 hplace
      exact hown
  | plainAlias => exact List.forall_mem_singleton.2 (.token _)
  | struct =>
    exact emits_memberPlaces (forall₂_zip_map (length_fieldIdents model) fun _ field _ =>
      emits_fieldType graph model.name field)
  | composition =>
    -- A member of a composition is a path, boxed where it leads back, optional in a union.
    have hmembers : List.Forall₂ (fun member leaf => Emits graph ⟨member.type, leaf⟩)
        (embeddedMembers graph model) ((embedded graph model).map .model) := by
      refine forall₂_zip_map (by rw [Names.length_claimIdents, List.length_map])
        fun _ child hchild => ?_
      have hpath : Emits graph ⟨.path child, .model child⟩ :=
        .model (contains_of_mem_embedded hchild)
      have hboxed : Emits graph
          ⟨if holds graph child model.name then .box (.path child) else .path child,
            .model child⟩ := by
        split
        · exact .box hpath
        · exact hpath
      dsimp only
      cases model.union with
      | false => exact hboxed
      | true => exact .option hboxed
    by_cases hnone : (embeddedMembers graph model).isEmpty = true
    · simp only [hnone, if_true]
      exact List.forall_mem_singleton.2 (.token _)
    · simp only [hnone, Bool.false_eq_true, if_false]
      exact emits_memberPlaces hmembers
  | empty => exact List.forall_mem_singleton.2 (.token _)

/-- **The types in a signature** are written where the crate's error is known. -/
theorem expected_signaturePlaces {graph : Graph} {fixed : List String} (herror : "Error" ∈ fixed)
    (endpoint : Endpoint) : ∀ place ∈ signaturePlaces graph endpoint,
      ∀ occurrence ∈ place.occurrences, Expected graph fixed occurrence := by
  have hoptional : ∀ (token : TypeToken) (plain : Bool), Emits graph
      ⟨if plain then typeOf graph token else .option (typeOf graph token),
        meantBy graph token⟩ := by
    intro token plain
    cases plain with
    | true => exact .token token
    | false => exact .option (.token token)
  intro place hplace
  -- Three sorts of places: a parameter's, the body's and the result's.
  simp only [signaturePlaces, List.mem_append, List.mem_map, List.mem_singleton] at hplace
  rcases hplace with (⟨field, -, rfl⟩ | ⟨payload, -, rfl⟩) | rfl
  · exact (hoptional field.type (field.required || field.isArray)).expected
  · exact (hoptional payload.type payload.required).expected
  · -- The result type is the standard one and its error one of the fixed names; what stands between
    -- them is the response's own.
    refine List.forall_mem_cons.2 ⟨.standard (by decide), fun occurrence hmem => ?_⟩
    rcases List.mem_append.1 hmem with hmem | hmem
    · unfold responseType at hmem
      cases hresponse : endpoint.response with
      | none =>
        rw [hresponse] at hmem
        cases hmem
      | some token =>
        rw [hresponse] at hmem
        exact expected_placeOf token occurrence hmem
    · rw [List.mem_singleton.1 hmem]
      exact .fixed herror

/-! ## What the names denote -/

section Modules

variable (graph : Graph) (config : Config) (endpoints : List Endpoint)

/-- The module of the models knows none of the crate's own types. -/
theorem fixedNames_modelsModule : (modelsModule graph).fixedNames = [] := by
  simp [Module.fixedNames, modelsModule, Decl.interfaceName?]

/-- The module of the client imports the error and the client, and defines the interface. -/
theorem fixedNames_clientModule :
    (clientModule graph endpoints).fixedNames = ["Error", "Client", "ApiClient"] := by
  have huses : ((clientModule graph endpoints).uses.flatMap importedNames).filter
      crateTypes.contains = ["Error", "Client"] := by
    show (["crate::error::Error", "crate::models::*",
      "crate::transport::\x7bClient, append_query\x7d"].flatMap importedNames).filter _ = _
    decide +kernel
  rw [Module.fixedNames, huses]
  rfl

/-- The module of the tests imports what it tests. -/
theorem fixedNames_testsModule : (testsModule graph config endpoints).fixedNames =
    ["ApiClient", "Client", "MockTransport"] := by
  have huses : ((testsModule graph config endpoints).uses.flatMap importedNames).filter
      crateTypes.contains = ["ApiClient", "Client", "MockTransport"] := by
    show (["crate::client::ApiClient", "crate::mock::FIXTURES", "crate::models::*",
      "crate::transport::\x7bClient, INVALID_API_KEY, MockTransport, VALID_API_KEY\x7d"].flatMap
        importedNames).filter _ = _
    decide +kernel
  rw [Module.fixedNames, huses]
  simp [testsModule, List.filterMap_flatMap, Decl.interfaceName?]

/-- The module of the tests defines no type. -/
theorem typeNames_testsModule : (testsModule graph config endpoints).typeNames = [] := by
  simp [Module.typeNames, testsModule, List.filterMap_flatMap, Decl.typeName?]

end Modules

section Denotes

variable {surface : Surface} {config : Config} {emitted : Emitted}

/-- The types of the models' module are the models. -/
theorem mem_typeNames_iff {graph : Graph} {name : String} :
    name ∈ (modelsModule graph).typeNames ↔ graph.contains name = true := by
  rw [Module.typeNames, typeNames_modelsModule, Graph.map_name_toList]
  exact Table.contains_iff_mem_keys.symm

/-- **What a name denotes in an emitted module:** what the keyword does, else a type of the crate
that the module knows, else a model, else a standard type. -/
theorem meaning_emitted (h : emitted ∈ surface.emitted config) (name : String) :
    (modelsModule surface.models).meaning emitted.module name =
      if name = "Self" then .own
      else if name ∈ emitted.module.fixedNames then .fixed name
      else if surface.models.contains name = true then .model name else .standard name := by
  simp only [Surface.emitted, List.mem_cons, List.not_mem_nil, or_false] at h
  rcases h with rfl | rfl | rfl
  · simp only [Module.meaning, fixedNames_modelsModule, mem_typeNames_iff]
    simp [modelsModule]
  · have huses : "crate::models::*" ∈ (clientModule surface.models surface.endpoints).uses :=
      .tail _ (.head _)
    have hnone : (clientModule surface.models surface.endpoints).typeNames = [] := rfl
    simp [Module.meaning, mem_typeNames_iff, huses, hnone]
  · have huses : "crate::models::*" ∈
        (testsModule surface.models config surface.endpoints).uses :=
      .tail _ (.tail _ (.head _))
    simp [Module.meaning, typeNames_testsModule, mem_typeNames_iff, huses]

/-- What a module knows of the crate is one of its types. -/
theorem fixedNames_subset (h : emitted ∈ surface.emitted config) :
    emitted.module.fixedNames ⊆ crateTypes := by
  simp only [Surface.emitted, List.mem_cons, List.not_mem_nil, or_false] at h
  rcases h with rfl | rfl | rfl
  · rw [fixedNames_modelsModule]
    exact List.nil_subset _
  · rw [fixedNames_clientModule]
    decide
  · rw [fixedNames_testsModule]
    decide

/-- **Every name was generated for something** that its module is to know. -/
theorem expected_emitted (h : emitted ∈ surface.emitted config) :
    ∀ place ∈ emitted.places, ∀ occurrence ∈ place.occurrences,
      Expected surface.models emitted.module.fixedNames occurrence := by
  simp only [Surface.emitted, List.mem_cons, List.not_mem_nil, or_false] at h
  rcases h with rfl | rfl | rfl
  · intro place hplace
    obtain ⟨model, hmodel, hplace⟩ := List.mem_flatMap.1 hplace
    exact (emits_modelPlaces hmodel place hplace).expected
  · have herror : "Error" ∈ (clientModule surface.models surface.endpoints).fixedNames := by
      rw [fixedNames_clientModule]
      exact List.mem_cons_self
    intro place hplace
    have hplace := (List.mem_append.1 hplace).elim id id
    obtain ⟨endpoint, -, hplace⟩ := List.mem_flatMap.1 hplace
    exact expected_signaturePlaces herror endpoint place hplace
  · intro place hplace
    obtain ⟨endpoint, -, hplace⟩ := List.mem_flatMap.1 hplace
    obtain ⟨token, -, rfl⟩ := List.mem_map.1 hplace
    exact expected_placeOf token

/-- **The names at a place denote what they were generated for** exactly if no model captures one
of them. -/
theorem denotes_iff (h : emitted ∈ surface.emitted config) {place : Place}
    (hplace : place ∈ emitted.places) :
    (modelsModule surface.models).Denotes emitted.module place ↔
      ∀ model ∈ surface.models.toList, ¬ emitted.module.Captures place model.name := by
  have hexpected := expected_emitted h place hplace
  have hstandard : ∀ name ∈ standardNames, name ∉ crateTypes ∧ name ≠ "Self" := by decide
  have hcrate : ∀ name ∈ crateTypes, name ≠ "Self" := by decide
  constructor
  · intro hdenotes model hmodel hcaptures
    have hread {meaning : Meaning} (hmem : (model.name, meaning) ∈ place.occurrences) :
        (if model.name = "Self" then .own
          else if model.name ∈ emitted.module.fixedNames then .fixed model.name
          else if surface.models.contains model.name = true then .model model.name
          else .standard model.name) = meaning :=
      (meaning_emitted h model.name).symm.trans (hdenotes _ hmem)
    -- a name that is captured denotes the model, or what hides the model, and not what it should
    rcases hcaptures with hstolen | ⟨hhidden, hfixed | hself⟩
    · have hname := hread hstolen
      rw [if_pos (Graph.contains_iff_exists_mem.2 ⟨model, hmodel, rfl⟩)] at hname
      split at hname
      · cases hname
      · split at hname <;> cases hname
    · have hname := hread hhidden
      rw [if_neg (hcrate _ (fixedNames_subset h hfixed)), if_pos hfixed] at hname
      cases hname
    · have hname := hread hhidden
      rw [if_pos hself] at hname
      cases hname
  · intro hfree occurrence hmem
    have hfree : ∀ name, surface.models.contains name = true →
        ¬ emitted.module.Captures place name := by
      intro name hheld
      obtain ⟨model, hmodel, rfl⟩ := Graph.contains_iff_exists_mem.1 hheld
      exact hfree model hmodel
    rw [meaning_emitted h]
    cases hexpected occurrence hmem with
    | @standard name hname =>
      obtain ⟨hcrate, hself⟩ := hstandard name hname
      have hfixed : name ∉ emitted.module.fixedNames := fun hfixed =>
        hcrate (fixedNames_subset h hfixed)
      have hnone : ¬ surface.models.contains name = true := fun hheld =>
        hfree name hheld (Or.inl hmem)
      rw [if_neg hself, if_neg hfixed, if_neg hnone]
    | @model name hheld =>
      have hself : name ≠ "Self" := fun hself => hfree name hheld (Or.inr ⟨hmem, Or.inr hself⟩)
      have hfixed : name ∉ emitted.module.fixedNames := fun hfixed =>
        hfree name hheld (Or.inr ⟨hmem, Or.inl hfixed⟩)
      rw [if_neg hself, if_neg hfixed, if_pos hheld]
    | fixed hfixed => rw [if_neg (hcrate _ (fixedNames_subset h hfixed)), if_pos hfixed]

end Denotes

/-! ## Names in use -/

/-- The names of types that generated modules use besides those of models, and the keyword, which
no type can have for its name. -/
def namesInUse : List String := "Self" :: crateTypes ++ capitalStandards

/-- Those of them that extend another word, each after that word. -/
def compoundNames : List (String × String) := [("Api", "ApiClient"), ("Mock", "MockTransport")]

/-- A name in use extends itself, nothing, or the word that it is compounded of. -/
theorem base_of_nameInUse {base name : String} (hname : name ∈ namesInUse)
    (h : Extends base name) :
    base = name ∨ base = "" ∨ (base, name) ∈ compoundNames := by
  -- a name extends one of its beginnings, and there are few of them
  have hall : ∀ name ∈ namesInUse, ∀ k ∈ List.range (name.toList.length + 1),
      Ending (name.toList.drop k) →
        String.ofList (name.toList.take k) = name ∨ String.ofList (name.toList.take k) = "" ∨
          (String.ofList (name.toList.take k), name) ∈ compoundNames := by
    decide +kernel
  obtain ⟨ending, hending, hchars⟩ := h
  have hbase : String.ofList (name.toList.take base.toList.length) = base := by
    rw [hchars, List.take_left, String.ofList_toList]
  have hlength : base.toList.length ∈ List.range (name.toList.length + 1) := by
    rw [List.mem_range, hchars, List.length_append]
    omega
  have hcases := hall name hname _ hlength (by rwa [hchars, List.drop_left])
  rwa [hbase] at hcases

/-- **What is captured is a name in use:** the others that code names begin with a small letter, and
no model does. -/
theorem nameInUse_of_captures {surface : Surface} {config : Config} {emitted : Emitted}
    (h : emitted ∈ surface.emitted config) {place : Place} (hplace : place ∈ emitted.places)
    {name : String} (hraised : Raised name.toList)
    (hcaptures : emitted.module.Captures place name) :
    name ∈ namesInUse := by
  rcases hcaptures with hstolen | ⟨-, hfixed | rfl⟩
  · have hall : ∀ name ∈ standardNames, name.toList.head?.all (!·.isLower) →
        name ∈ capitalStandards := by
      decide
    cases expected_emitted h place hplace _ hstolen with
    | standard hstandard =>
      refine List.mem_append_right ("Self" :: crateTypes) (hall name hstandard ?_)
      cases hhead : name.toList.head? with
      | none => rfl
      | some c => rw [Option.all_some, hraised c hhead, Bool.not_false]
  · exact List.mem_append_left _ (List.mem_cons_of_mem _ (fixedNames_subset h hfixed))
  · exact List.mem_cons_self

/-- **When the type names of a run denote what they were generated for.**  In each emitted module,
which lists every type of its fields and signatures, the names at a place do so exactly if no model
captures one of them.  A model that captures one has a name in use, and such a name is given by
the document, or is all ending, or goes on after `Api` or `Mock`. -/
theorem typeNames_denote_iff {doc : Document} {routes : List String} {surface : Surface}
    (h : Sdk.surface doc routes = .ok surface) (config : Config) :
    (∀ model ∈ surface.models.toList, model.name ∈ namesInUse →
      ∃ base, doc.GivenName routes base ∧
        (base = model.name ∨ base = "" ∨ (base, model.name) ∈ compoundNames)) ∧
    ∀ emitted ∈ surface.emitted config,
      emitted.module.types = emitted.places.map Place.type ∧
      ∀ place ∈ emitted.places,
        ((modelsModule surface.models).Denotes emitted.module place ↔
          ∀ model ∈ surface.models.toList, ¬ emitted.module.Captures place model.name) ∧
        ∀ model ∈ surface.models.toList, emitted.module.Captures place model.name →
          model.name ∈ namesInUse := by
  refine ⟨fun model hmodel hname => ?_, fun emitted hemitted => ⟨types_emitted hemitted,
    fun place hplace => ⟨denotes_iff hemitted hplace, fun model hmodel hcaptures => ?_⟩⟩⟩
  · obtain ⟨base, hbase, hextends⟩ := exists_givenName h hmodel
    exact ⟨base, hbase, base_of_nameInUse hname hextends⟩
  · obtain ⟨base, hbase, hextends⟩ := exists_givenName h hmodel
    exact nameInUse_of_captures hemitted hplace (hextends.raised hbase.raised) hcaptures

/-! ## A component called `Error` -/

/-- The component is called `Error`. -/
def errorDocument : Document :=
  readingDocument "Error" {
    type := some (.single "object")
    properties := some [("code", { type := some (.single "integer") })] }

/-- The method of its operation is to give the component, but the crate's own error hides it. -/
theorem typeNames_denote_iff_error :
    ∃ surface, Sdk.surface errorDocument [] = .ok surface ∧
      ∃ emitted ∈ surface.emitted {}, ∃ place ∈ emitted.places,
        ¬ (modelsModule surface.models).Denotes emitted.module place := by
  have hok : (Sdk.surface errorDocument []).isOk = true := by decide +kernel
  obtain ⟨surface, h⟩ := exists_of_isOk hok
  obtain ⟨⟨endpoint, hendpoint, hresponse⟩, model, hmodel, hname⟩ :=
    exists_reading h (by decide +kernel)
  have herror : typeName "Error" = "Error" := by decide +kernel
  rw [herror] at hresponse hname
  -- The component's model is stored under a name that the client module fixes as well.
  have hheld : surface.models.contains "Error" = true :=
    Graph.contains_iff_exists_mem.2 ⟨model, hmodel, hname⟩
  have hplace : (⟨.result (.path "Error"), .model "Error"⟩ : Place) ∈
      surface.endpoints.flatMap (signaturePlaces surface.models) := by
    refine List.mem_flatMap.2 ⟨endpoint, hendpoint, List.mem_append_right _ ?_⟩
    simp [responseType, hresponse, typeOf, meantBy, hheld]
  obtain ⟨-, hemitted⟩ := typeNames_denote_iff h {}
  -- The client module is the second one emitted, and the response's type is the place.
  obtain ⟨-, hdenotes⟩ := hemitted
    ⟨clientModule surface.models surface.endpoints, _⟩ (.tail _ (.head _))
  refine ⟨surface, h, _, .tail _ (.head _), _, List.mem_append_left _ hplace, fun hall => ?_⟩
  refine (hdenotes _ (List.mem_append_left _ hplace)).1.1 hall model hmodel
    (Or.inr ⟨?_, Or.inl ?_⟩)
  · rw [hname]
    exact .tail _ (.head _)
  · rw [hname, fixedNames_clientModule]
    exact .head _

end Sdk

end ClientForge
