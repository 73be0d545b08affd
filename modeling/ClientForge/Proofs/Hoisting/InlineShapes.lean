/-
  Where inline objects get names.

  An inline object has no name in the document, and the generated code can only show its fields if it
  gets one.  Whether it does depends on the way from where a type is asked for to where the object
  stands.  A type is asked for in many places: a property, the items of a list, the values of a map, a
  parameter, a payload.

  1. **The way** (`Schema.Inside`).  Resolution passes lists, maps and compositions of one member.
     Lists are counted and built again around the name that the object gets, but a map drops what
     needs a name: it is a map of anything then (`Schema.Inside.resolve_eq`).
  2. **The answer** (`Graph.Represents`).  So an object is represented exactly if no map is on the way,
     and with a map on it the whole type is one of anything.  Both halves are in the statement, since
     "not represented" by itself would leave open what the type is instead.
  3. **The places** (`Graph.Keeps`).  A model keeps what is inside its schema in fields, in children or
     in the type that it is another name for.  Members of a composition are no place where a type is
     asked for: an inline one always gets a name, and a list or map among them is passed over with
     whatever is inside.
  4. **The whole** (`Document.extract_represents`): all of this in every document whose endpoints can
     be extracted, for components, made-up models and endpoints alike.

  The property of an object may occur twice under one key; then the last one counts, and the
  statements about fields say so.
-/
import ClientForge.Proofs.Hoisting.Definitions
import ClientForge.Proofs.Hoisting.Endpoints
import ClientForge.Proofs.Hoisting.Readings
import ClientForge.Proofs.Models.WellFormed

namespace ClientForge

/-! ## The way to a schema that needs a name -/

/-- What a schema puts around the type of a part of it. -/
inductive Layer where
  | list
  | map
deriving DecidableEq

/-- An inline object, and a composition with an inline object among several members, have no type
of their own. -/
inductive Schema.Structured (schema : Schema) : Prop
  | object (hp : schema.hasProperties = true)
  | composition {members : List Schema} {union : Bool} {member : Schema}
      (hc : schema.composition? = some (members, union)) (hp : schema.hasProperties = false)
      (hmem : member ∈ members) (hobject : member.hasProperties = true)
      (hnull : member.isNull = false)
      (hothers : ∀ single, members.filter (!·.isNull) ≠ [single])

/-- `inner.Inside layers schema` — resolution, asked for the type of the schema, arrives at the
inner one through these layers, the outermost first. -/
inductive Schema.Inside (inner : Schema) : List Layer → Schema → Prop
  | here : inner.Inside [] inner
  | item {schema item : Schema} {layers : List Layer} (hc : schema.composition? = none)
      (hp : schema.hasProperties = false) (href : schema.reference = none)
      (htype : schema.primaryType? = some "array") (hitems : schema.items = some item)
      (h : inner.Inside layers item) : inner.Inside (.list :: layers) schema
  | value {schema value : Schema} {layers : List Layer} (hc : schema.composition? = none)
      (hp : schema.hasProperties = false) (href : schema.reference = none)
      (htype : schema.primaryType? = some "object" ∨ schema.primaryType? = none)
      (hadditional : schema.additional = some (.schema value))
      (h : inner.Inside layers value) : inner.Inside (.map :: layers) schema
  /-- A composition with just one member that is not null is that member. -/
  | only {schema single : Schema} {members : List Schema} {union : Bool} {layers : List Layer}
      (hc : schema.composition? = some (members, union)) (hp : schema.hasProperties = false)
      (hsingle : members.filter (!·.isNull) = [single]) (h : inner.Inside layers single) :
      inner.Inside layers schema

/-- What the layer makes of the resolution of the part. -/
def Layer.around : Layer → Resolution → Resolution
  | .list, part => part.inArray
  | .map, part => .type (.map part.mapValue)

namespace Schema

variable {schema inner : Schema} {layers : List Layer}

/-- What has no type of its own is left for a name. -/
theorem Structured.resolve_eq (h : schema.Structured) : schema.resolve = .anonymous schema 0 := by
  cases h with
  | object hp => exact resolve_of_properties hp
  | @composition members union member hc hp hmem hobject hnull hothers =>
    rw [resolve_of_several hc hp hothers]
    refine if_pos (List.any_eq_true.2 ⟨member, List.mem_filter.2 ⟨hmem, ?_⟩, ?_⟩)
    · rw [hnull, Bool.not_false]
    · simp [isShaped, hobject]

/-- **Resolution follows the layers** to the schema that needs a name. -/
theorem Inside.resolve_eq (hstructured : inner.Structured) (h : inner.Inside layers schema) :
    schema.resolve = layers.foldr Layer.around (.anonymous inner 0) := by
  induction h with
  | here => exact hstructured.resolve_eq
  | item hc hp href htype hitems _ ih =>
    rw [resolve_of_simple hc hp, href, htype, hitems, List.foldr_cons, ← ih]
    rfl
  | value hc hp href htype hadditional _ ih =>
    rw [resolve_of_simple hc hp, href, mapToken, hadditional, List.foldr_cons, ← ih]
    rcases htype with htype | htype <;> rw [htype] <;> rfl
  | only hc hp hsingle _ ih =>
    rw [← ih, resolve_of_single hc hp hsingle]

end Schema

/-! ## Types without a name -/

/-- Anything, or lists and maps of anything. -/
def TypeToken.isUntyped : TypeToken → Bool
  | any => true
  | array item => item.isUntyped
  | map value => value.isUntyped
  | primitive _ => false
  | named _ => false

/-- Lists around a type do not give it a name. -/
theorem TypeToken.isUntyped_inArrays (token : TypeToken) (depth : Nat) :
    (token.inArrays depth).isUntyped = token.isUntyped := by
  induction depth with
  | zero => rfl
  | succ depth ih => exact ih

/-- Lists alone keep what needs a name. -/
theorem Layer.foldr_around_of_lists {layers : List Layer} (h : Layer.map ∉ layers)
    (inner : Schema) :
    layers.foldr Layer.around (.anonymous inner 0) = .anonymous inner layers.length := by
  induction layers with
  | nil => rfl
  | cons layer rest ih =>
    obtain ⟨hlayer, hrest⟩ := not_or.1 (mt List.mem_cons.2 h)
    cases layer with
    | list =>
      rw [List.foldr_cons, ih hrest]
      rfl
    | map => exact absurd rfl hlayer

/-- A map drops it, and nothing around the map brings it back. -/
theorem Layer.foldr_around_of_map {layers : List Layer} (h : Layer.map ∈ layers)
    (inner : Schema) : ∃ token, token.isUntyped = true ∧
      layers.foldr Layer.around (.anonymous inner 0) = .type token := by
  induction layers with
  | nil => cases h
  | cons layer rest ih =>
    rw [List.foldr_cons]
    by_cases hrest : Layer.map ∈ rest
    · obtain ⟨token, htoken, heq⟩ := ih hrest
      rw [heq]
      cases layer with
      | list => exact ⟨.array token, htoken, rfl⟩
      | map => exact ⟨.map token, htoken, rfl⟩
    · obtain rfl := (List.mem_cons.1 h).resolve_right hrest
      rw [Layer.foldr_around_of_lists hrest]
      exact ⟨.map .any, rfl, rfl⟩

/-! ## Representation -/

/-- The type has a made-up model for what is inside the layers, exactly if no map is among them;
if one is, the type is one of anything. -/
def Graph.Represents (graph : Graph) (inner : Schema) (layers : List Layer) (token : TypeToken) :
    Prop :=
  ((∃ name, graph.Made inner name ∧ token = (TypeToken.named name).inArrays layers.length) ↔
    Layer.map ∉ layers) ∧
  (Layer.map ∈ layers → token.isUntyped = true)

section Positions

variable {graph : Graph} {schema inner : Schema} {layers : List Layer} {token : TypeToken}

/-- **Wherever a type is asked for,** an inline object is represented exactly if no map is on the
way to it. -/
theorem Graph.Stands.represents (h : graph.Stands schema token) (hstructured : inner.Structured)
    (hin : inner.Inside layers schema) : graph.Represents inner layers token := by
  have hresolve := hin.resolve_eq hstructured
  by_cases hmap : Layer.map ∈ layers
  · obtain ⟨untyped, huntyped, hfold⟩ := Layer.foldr_around_of_map hmap inner
    rw [hfold] at hresolve
    have htoken : token.isUntyped = true := by
      cases h with
      | own hown =>
        cases hresolve.symm.trans hown
        exact huntyped
      | inline hinline => cases hresolve.symm.trans hinline
    refine ⟨iff_of_false ?_ (not_not_intro hmap), fun _ => htoken⟩
    rintro ⟨name, -, rfl⟩
    rw [TypeToken.isUntyped_inArrays] at htoken
    cases htoken
  · rw [Layer.foldr_around_of_lists hmap] at hresolve
    refine ⟨iff_of_true ?_ hmap, fun h => absurd h hmap⟩
    cases h with
    | own hown => cases hresolve.symm.trans hown
    | inline hinline made =>
      cases hresolve.symm.trans hinline
      exact ⟨_, made, rfl⟩

/-! ## The parts of a model -/

/-- A field that no later one has the key of stays. -/
theorem get?_foldl_insert_of_not_mem {fields : List Field} {key : String}
    (h : key ∉ fields.map Field.key) (table : Table Field) :
    (fields.foldl (fun table field => table.insert field.key field) table).get? key =
      table.get? key := by
  have hnone : (fields.reverse.find? fun field => field.key == key) = none := by
    rw [List.find?_eq_none]
    intro field hmem heq
    exact h (List.mem_map.2 ⟨field, List.mem_reverse.1 hmem, eq_of_beq heq⟩)
  rw [get?_foldl_insert, hnone, Option.none_or]

/-- The fields have the keys of the properties, in their order. -/
theorem Graph.FieldsStand.keys {required : List String} {properties : List (String × Schema)}
    {fields : List (Field × Option String)} (h : graph.FieldsStand required properties fields) :
    (fields.map Prod.fst).map Field.key = properties.map Prod.fst := by
  induction properties generalizing fields with
  | nil =>
    cases h
    rfl
  | cons property rest ih =>
    cases h with
    | cons _ hothers => exact congrArg (List.cons _) (ih hothers)

/-- The last property of a key has its field, and the type of the field is that of the property. -/
theorem Graph.FieldsStand.exists_field {required : List String} {key : String}
    {before after : List (String × Schema)} {part : Schema}
    {fields : List (Field × Option String)}
    (h : graph.FieldsStand required (before ++ (key, part) :: after) fields)
    (hlast : key ∉ after.map Prod.fst) (model : Model) :
    ∃ field, (model.withFields fields).fields.get? key = some field ∧
      graph.Stands part field.type := by
  rw [Model.fields_withFields]
  generalize model.fields = table
  induction before generalizing fields table with
  | nil =>
    cases h with
    | @cons _ _ _ token _ rest htype hothers =>
      refine ⟨(Field.ofProperty required key part token).1, ?_, htype⟩
      rw [← hothers.keys] at hlast
      rw [List.map_cons, List.foldl_cons, get?_foldl_insert_of_not_mem hlast]
      exact Table.get?_insert_self _ _ _
  | cons first rest ih =>
    rw [List.cons_append] at h
    cases h with
    | cons _ hothers => exact ih hothers _

/-- An inline member has a child. -/
theorem Graph.MembersStand.exists_made {members : List Schema} {children : List String}
    {member : Schema} (h : graph.MembersStand members children) (hmem : member ∈ members)
    (hi : member.isInline = true) : ∃ child ∈ children, graph.Made member child := by
  induction members generalizing children with
  | nil => cases hmem
  | cons first rest ih =>
    cases h with
    | reference hb hothers =>
      rcases List.mem_cons.1 hmem with rfl | hmem
      · simp [Schema.isInline, hb] at hi
      · obtain ⟨child, hchild, hmade⟩ := ih hothers hmem
        exact ⟨child, List.mem_cons_of_mem _ hchild, hmade⟩
    | inline _ hmade hothers =>
      rcases List.mem_cons.1 hmem with rfl | hmem
      · exact ⟨_, List.mem_cons_self, hmade⟩
      · obtain ⟨child, hchild, hmade⟩ := ih hothers hmem
        exact ⟨child, List.mem_cons_of_mem _ hchild, hmade⟩
    | other _ hother hothers =>
      rcases List.mem_cons.1 hmem with rfl | hmem
      · cases hother.symm.trans hi
      · exact ih hothers hmem

/-- The field of the model for one of the schema's own properties; a composition has it in one of
its children. -/
def Graph.HasField (graph : Graph) (schema : Schema) (model : Model) (key : String)
    (field : Field) : Prop :=
  match schema.composition? with
  | none => model.fields.get? key = some field
  | some _ => ∃ child ∈ model.children, ∃ own, graph.get? child = some own ∧
      own.generated = true ∧ own.fields.get? key = some field

/-- `graph.Keeps schema model` — what the model built of a schema has for the inline objects in the
parts of the schema. -/
structure Graph.Keeps (graph : Graph) (schema : Schema) (model : Model) : Prop where
  /-- The field of a property has the type of the property. -/
  properties : ∀ before key part after, schema.ownProperties = before ++ (key, part) :: after →
    key ∉ after.map Prod.fst →
      ∃ field, graph.HasField schema model key field ∧ graph.Stands part field.type
  /-- An inline member of a composition is a made-up child. -/
  members : ∀ members union, schema.composition? = some (members, union) →
    ∀ member ∈ members, member.isInline = true → ∃ child ∈ model.children, graph.Made member child
  /-- A list or map is another name for its type, unless literals make it an enumeration. -/
  values : ∀ inner layer layers, inner.Structured → schema.composition? = none →
    inner.Inside (layer :: layers) schema → ∃ token, model.aliasOf = some token ∧
      (schema.literals = none → graph.Represents inner (layer :: layers) token) ∧
      (schema.literals.isSome = true → token = .primitive .string)

/-- Inside a layer the schema is a list or a map, and nothing else. -/
theorem Schema.Inside.isPlain {layer : Layer} (h : inner.Inside (layer :: layers) schema)
    (hc : schema.composition? = none) : schema.hasProperties = false ∧ schema.reference = none ∧
      schema.isScalar = false := by
  cases h with
  | item _ hp href htype => exact ⟨hp, href, by simp [isScalar, htype]⟩
  | value _ hp href htype =>
    refine ⟨hp, href, ?_⟩
    rcases htype with htype | htype <;> simp [isScalar, htype]
  | only hc' => cases hc.symm.trans hc'

/-- Around what needs a name stands no scalar. -/
theorem Schema.Inside.aliasToken {layer : Layer} (h : inner.Inside (layer :: layers) schema)
    (hc : schema.composition? = none) (hliterals : schema.literals.isSome = true) :
    schema.aliasToken = .primitive .string := by
  have hprimitive : (schema.primaryType?.bind fun type =>
      Primitive.ofSchema? type schema.format) = none := by
    cases h with
    | item _ _ _ htype => rw [htype]; rfl
    | value _ _ _ htype => rcases htype with htype | htype <;> rw [htype] <;> rfl
    | only hc' => cases hc.symm.trans hc'
  rw [Schema.aliasToken, hprimitive]
  exact if_pos hliterals

/-- A schema without properties has none anywhere. -/
theorem Schema.not_property {property : String × Schema} {before after : List (String × Schema)}
    (hp : schema.hasProperties = false) :
    schema.ownProperties ≠ before ++ property :: after := by
  intro h
  simp [hasProperties, h] at hp

/-- A model without parts, by the kinds of values that its schema may have. -/
theorem Graph.keeps_of_values {model : Model} (hc : schema.composition? = none)
    (hp : schema.hasProperties = false)
    (h : ∀ inner layer layers, inner.Structured → inner.Inside (layer :: layers) schema →
      ∃ token, model.aliasOf = some token ∧
        (schema.literals = none → graph.Represents inner (layer :: layers) token) ∧
        (schema.literals.isSome = true → token = .primitive .string)) :
    graph.Keeps schema model where
  properties before key part after hsplit := absurd hsplit (Schema.not_property hp)
  members members union hc' := by cases hc.symm.trans hc'
  values inner layer layers hstructured _ hin := h inner layer layers hstructured hin

/-- The model of a composition, by the children that stand for its members. -/
theorem Graph.keeps_of_members {model : Model} {members : List Schema} {union : Bool}
    {children : List String} (hc : schema.composition? = some (members, union))
    (hchildren : ∀ child ∈ children, child ∈ model.children)
    (hparts : graph.MembersStand members children)
    (hproperties : ∀ before key part after,
      schema.ownProperties = before ++ (key, part) :: after → key ∉ after.map Prod.fst →
        ∃ field, graph.HasField schema model key field ∧ graph.Stands part field.type) :
    graph.Keeps schema model where
  properties := hproperties
  members members' union' hc' member hmem hi := by
    cases hc.symm.trans hc'
    obtain ⟨child, hchild, hmade⟩ := hparts.exists_made hmem hi
    exact ⟨child, hchildren child hchild, hmade⟩
  values inner layer layers _ hc' := by cases hc.symm.trans hc'

/-- **A model that says what its schema does** keeps the inline objects in the parts of it. -/
theorem Graph.Describes.keeps {name : String} {generated : Bool} {model : Model}
    (h : graph.Describes name generated schema model) : graph.Keeps schema model := by
  cases h with
  | reference hb =>
    obtain ⟨hc, hp⟩ := Schema.simple_of_bareReference hb
    refine Graph.keeps_of_values hc hp fun inner layer layers _ hin => ?_
    cases (hin.isPlain hc).2.1.symm.trans (Schema.bareReference?_eq_some_iff.1 hb).2
  | composition _ hc hp hparts =>
    exact Graph.keeps_of_members hc (fun child hchild => Names.mem_ofList.2 hchild) hparts
      fun before key part after hsplit => absurd hsplit (Schema.not_property hp)
  | @extended _ _ _ _ _ children ownName fields _ hc hp hparts hstored _ hown =>
    refine Graph.keeps_of_members hc
      (fun child hchild => Names.mem_ofList.2 (List.mem_append_left _ hchild)) hparts
      fun before key part after hsplit hlast => ?_
    rw [hsplit] at hown
    obtain ⟨field, hfield, hstands⟩ := hown.exists_field hlast { name := ownName, generated := true }
    refine ⟨field, ?_, hstands⟩
    unfold Graph.HasField
    rw [hc]
    exact ⟨ownName, Names.mem_ofList.2 (by simp), _, hstored, rfl, hfield⟩
  | record _ hc hp hown =>
    refine ⟨?_, ?_, ?_⟩
    · intro before key part after hsplit hlast
      rw [hsplit] at hown
      obtain ⟨field, hfield, hstands⟩ := hown.exists_field hlast (Model.unshaped name generated schema)
      refine ⟨field, ?_, hstands⟩
      unfold Graph.HasField
      rw [hc]
      exact hfield
    · intro members union hc'
      cases hc.symm.trans hc'
    · intro inner layer layers _ _ hin
      cases (hin.isPlain hc).1.symm.trans hp
  | scalar _ hc hp hs =>
    refine Graph.keeps_of_values hc hp fun inner layer layers _ hin => ?_
    have hliterals : schema.literals.isSome = true := by
      rwa [(hin.isPlain hc).2.2, Bool.false_or] at hs
    refine ⟨schema.aliasToken, rfl, fun hnone => ?_, fun _ => hin.aliasToken hc hliterals⟩
    rw [hnone] at hliterals
    cases hliterals
  | array _ hc hp hs _ hitems =>
    refine Graph.keeps_of_values hc hp fun inner layer layers hstructured hin => ?_
    refine ⟨_, rfl, fun _ => hitems.represents hstructured hin, fun hliterals => ?_⟩
    rw [hliterals, Bool.or_true] at hs
    cases hs
  | map _ hc hp hs ha hadd =>
    refine Graph.keeps_of_values hc hp fun inner layer layers hstructured hin => ?_
    refine ⟨_, rfl, fun _ => ?_, fun hliterals => ?_⟩
    · -- the token of a map is the one that its schema would have as a property
      have hown : graph.Stands schema schema.mapToken := by
        cases hin with
        | item _ _ _ htype => exact absurd htype ha
        | value _ _ href htype hadditional =>
          refine .own ?_
          rw [Schema.resolve_of_simple hc hp, href]
          rcases htype with htype | htype <;> rw [htype]
          · rfl
          · rw [hadditional]
            rfl
        | only hc' => cases hc.symm.trans hc'
      exact hown.represents hstructured hin
    · rw [hliterals, Bool.or_true] at hs
      cases hs
  | plain _ hc hp _ ha hadd =>
    refine Graph.keeps_of_values hc hp fun inner layer layers _ hin => ?_
    cases hin with
    | item _ _ _ htype => exact absurd htype ha
    | value _ _ _ _ hadditional => exact absurd hadditional (hadd _)
    | only hc' => cases hc.symm.trans hc'

end Positions

/-! ## A whole document -/

/-- What a document with its endpoints extracted has for the inline objects inside its schemas. -/
structure Extraction.Represents (doc : Document) (routes : List String) (extraction : Extraction) :
    Prop where
  /-- Wherever a type is asked for, what needs a name is represented exactly if no map is on the
  way. -/
  types : ∀ schema token, (doc.mergedGraph extraction).Stands schema token →
    ∀ inner layers, inner.Structured → inner.Inside layers schema →
      (doc.mergedGraph extraction).Represents inner layers token
  /-- Several members of a composition without a shape are any value, objects inside them too. -/
  unshaped : ∀ (schema : Schema) token members union,
    (doc.mergedGraph extraction).Stands schema token →
    schema.composition? = some (members, union) → schema.hasProperties = false →
    (∀ single, members.filter (!·.isNull) ≠ [single]) →
    (∀ member ∈ members, member.isNull = false → member.isShaped = false) → token = .any
  components : ∀ name schema, doc.foremost? name = some schema →
    ∃ model, (doc.mergedGraph extraction).get? name = some model ∧
      (doc.mergedGraph extraction).Keeps schema model
  /-- A made-up model was built of its schema, and keeps in turn what is inside. -/
  made : ∀ schema name, (doc.mergedGraph extraction).Made schema name →
    ∃ model taken, (doc.mergedGraph extraction).get? name = some model ∧
      model.generated = true ∧ (buildModel name true schema taken).result = model ∧
      (doc.mergedGraph extraction).Keeps schema model
  /-- Types are asked for the parameters and payloads of the endpoints. -/
  endpoints : List.Forall₂ (fun operation => (doc.mergedGraph extraction).EndpointStands doc
    operation.2.1 operation.2.2.2) (Extraction.visits doc routes) extraction.endpoints
  /-- A list or a map among the members of a composition is passed over with what is inside. -/
  passedOver : ∀ (inner member : Schema) layer layers, member.composition? = none →
    inner.Inside (layer :: layers) member → ∀ wished index before after names,
      buildMembers wished index (before ++ member :: after) names =
        buildMembers wished index (before ++ after) names

/-- **Inline objects are represented unless a map is around them** or a composition passes over
them. -/
theorem Document.extract_represents {doc : Document} {routes : List String}
    {extraction : Extraction} (h : doc.extract routes (Graph.ofDocument doc) = .ok extraction) :
    extraction.Represents doc routes := by
  -- A model of the document's own graph survives the merge, which only adds.
  have hmerged : ∀ {name model}, (Graph.ofDocument doc).get? name = some model →
      (doc.mergedGraph extraction).get? name = some model :=
    fun hstored => (get?_mergedGraph h).2 (Or.inl hstored)
  exact {
    types := fun schema token hstands inner layers hstructured hin =>
      hstands.represents hstructured hin
    unshaped := by
      intro schema token members union hstands hc hp hothers hunshaped
      -- A composition of several members of which none has a shape resolves to no type at all, and
      -- a bound token can then only be `any`.
      have hresolve : schema.resolve = .type .any := by
        rw [Schema.resolve_of_several hc hp hothers]
        refine if_neg fun hany => ?_
        obtain ⟨member, hmem, hshaped⟩ := List.any_eq_true.1 hany
        obtain ⟨hmem, hnull⟩ := List.mem_filter.1 hmem
        cases (hunshaped member hmem (by simpa using hnull)).symm.trans hshaped
      cases hstands with
      | own hown =>
        cases hresolve.symm.trans hown
        rfl
      | inline hinline => cases hresolve.symm.trans hinline
    components := by
      intro name schema hforemost
      obtain ⟨_, _, -, hstored, hdescribes⟩ := foremost_stored hforemost
      -- Every model made up for a component is kept beside it, as the description of a component
      -- asks.
      have hmadeUp : (doc.mergedGraph extraction).Stores (madeUp doc.builtModels) :=
        fun model hmem => hmerged (doc.madeUp_builtModels.2.2 model hmem)
      exact ⟨_, hmerged hstored, (hdescribes _ hmadeUp).keeps⟩
    made := by
      intro schema name hmade
      cases hmade with
      | intro hstored hbuilt hdescribes =>
        obtain ⟨taken, rfl⟩ := hbuilt
        exact ⟨_, taken, hstored, (buildModel_name name true schema taken).2, rfl,
          hdescribes.keeps⟩
    endpoints := endpoints_stand h
    -- What is passed over is neither a reference nor inline, so the builder of members makes
    -- nothing.
    passedOver := by
      intro inner member layer layers hc hin
      obtain ⟨hp, href, -⟩ := hin.isPlain hc
      have hbare : member.bareReference? = none := by
        simp [Schema.bareReference?, href]
      have hinline : member.isInline = false := by simp [Schema.isInline, hc, hp]
      exact buildMembers_passedOver hbare hinline }

/-- The same label as a property, as an item of a list and as a value of a map. -/
def labelledDocument : Document where
  components := some { schemas := some (.ofList [("Shop", {
    type := some (.single "object")
    properties := some [
      ("list", { type := some (.single "array"), items := some labelSchema }),
      ("map", { type := some (.single "object"), additional := some (.schema labelSchema) }),
      ("own", labelSchema)] })]) }

/-- The label has a model as a property and as an item, and the map is one of anything. -/
theorem Document.extract_represents_labelled :
    ∃ extraction, labelledDocument.extract [] (Graph.ofDocument labelledDocument) =
      .ok extraction ∧ extraction.Represents labelledDocument [] := by
  have hok : (labelledDocument.extract [] (Graph.ofDocument labelledDocument)).isOk = true := by
    decide +kernel
  obtain ⟨extraction, h⟩ := exists_of_isOk hok
  exact ⟨extraction, h, Document.extract_represents h⟩

end ClientForge
