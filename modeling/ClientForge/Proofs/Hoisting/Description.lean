/-
  What a model made of a schema says, read off the graph that holds it.

  A model refers to the models hoisted out of its schema by name, and the names depend on what was
  taken when the schema was reached.  Two models of one schema, built at different times, may
  therefore differ in every name and still say the same.  The relations here leave the names aside:
  they follow a name into the graph and say that the model found there is the one built of that part
  of the schema, all the way down.

  * `Stands` — a token is the type of the values of a schema;
  * `Made` — under a name the graph holds the made-up model of a schema;
  * `Describes` — a model says what a schema does;
  * `FieldsStand`, `MembersStand` — the same for the properties of an object and the members of a
    composition, one by one and in their order.

  They are as mutual as the functions that build, and have one constructor for each way to build.  The
  premises of a constructor are those under which that way is taken, so that no two constructors fit
  one schema, and a proof about what a model says can go by cases on them.
-/
import ClientForge.Proofs.Hoisting.Growth

namespace ClientForge

/-- The model of a schema before it has a shape. -/
def Model.unshaped (name : String) (generated : Bool) (schema : Schema) : Model :=
  { name, generated, description := schema.description }

/-- A field for a property, with the child that it also names. -/
def Field.ofProperty (required : List String) (key : String) (schema : Schema)
    (token : TypeToken) : Field × Option String :=
  ({ key := key
     type := token
     description := schema.description
     required := required.contains key },
    if schema.isBareReference then token.innermost? else none)

mutual

/-- The token is the type of the values of the schema: its own type, or the name of the model built
of the schema inside that needs one. -/
inductive Graph.Stands (graph : Graph) : Schema → TypeToken → Prop where
  | own {schema : Schema} {token : TypeToken} (h : schema.resolve = .type token) :
      graph.Stands schema token
  | inline {schema inner : Schema} {depth : Nat} {name : String}
      (h : schema.resolve = .anonymous inner depth) (made : graph.Made inner name) :
      graph.Stands schema ((TypeToken.named name).inArrays depth)

/-- Under that name the graph holds the made-up model that was built of the schema. -/
inductive Graph.Made (graph : Graph) : Schema → String → Prop where
  | intro {schema : Schema} {name : String} {model : Model}
      (stored : graph.get? name = some model)
      (built : ∃ taken, (buildModel name true schema taken).result = model)
      (describes : graph.Describes name true schema model) : graph.Made schema name

/-- The model says what the schema does. -/
inductive Graph.Describes (graph : Graph) : String → Bool → Schema → Model → Prop where
  | reference {name : String} {generated : Bool} {schema : Schema} {reference : String}
      (h : schema.bareReference? = some reference) :
      graph.Describes name generated schema
        { Model.unshaped name generated schema with
          children := .ofList [Schema.referencedType reference] }
  | composition {name : String} {generated : Bool} {schema : Schema} {members : List Schema}
      {union : Bool} {children : List String} (hb : schema.bareReference? = none)
      (h : schema.composition? = some (members, union)) (hp : schema.hasProperties = false)
      (parts : graph.MembersStand members children) :
      graph.Describes name generated schema
        ((Model.unshaped name generated schema).ofChildren union children)
  /-- The own fields of a composition are one more made-up model, the last of its children. -/
  | extended {name : String} {generated : Bool} {schema : Schema} {members : List Schema}
      {union : Bool} {children : List String} {ownName : String}
      {fields : List (Field × Option String)} (hb : schema.bareReference? = none)
      (h : schema.composition? = some (members, union)) (hp : schema.hasProperties = true)
      (parts : graph.MembersStand members children)
      (stored : graph.get? ownName =
        some (Model.withFields { name := ownName, generated := true } fields))
      (built : ∃ taken, (buildFields ownName (schema.required.getD []) schema.ownProperties
        taken).result = fields)
      (own : graph.FieldsStand (schema.required.getD []) schema.ownProperties fields) :
      graph.Describes name generated schema
        ((Model.unshaped name generated schema).ofChildren union (children ++ [ownName]))
  | record {name : String} {generated : Bool} {schema : Schema}
      {fields : List (Field × Option String)} (hb : schema.bareReference? = none)
      (hc : schema.composition? = none) (h : schema.hasProperties = true)
      (own : graph.FieldsStand (schema.required.getD []) schema.ownProperties fields) :
      graph.Describes name generated schema
        ((Model.unshaped name generated schema).withFields fields)
  | scalar {name : String} {generated : Bool} {schema : Schema}
      (hb : schema.bareReference? = none) (hc : schema.composition? = none)
      (hp : schema.hasProperties = false)
      (h : (schema.isScalar || schema.literals.isSome) = true) :
      graph.Describes name generated schema
        ((Model.unshaped name generated schema).ofScalar schema)
  /-- A list is another name for its type, in which an inline item type is a made-up model. -/
  | array {name : String} {generated : Bool} {schema : Schema} {token : TypeToken}
      (hb : schema.bareReference? = none) (hc : schema.composition? = none)
      (hp : schema.hasProperties = false)
      (hs : (schema.isScalar || schema.literals.isSome) = false)
      (h : schema.primaryType? = some "array") (items : graph.Stands schema token) :
      graph.Describes name generated schema
        { Model.unshaped name generated schema with aliasOf := some token }
  | map {name : String} {generated : Bool} {schema value : Schema}
      (hb : schema.bareReference? = none) (hc : schema.composition? = none)
      (hp : schema.hasProperties = false)
      (hs : (schema.isScalar || schema.literals.isSome) = false)
      (ha : schema.primaryType? ≠ some "array")
      (h : schema.additional = some (.schema value)) :
      graph.Describes name generated schema
        { Model.unshaped name generated schema with aliasOf := some schema.mapToken }
  | plain {name : String} {generated : Bool} {schema : Schema}
      (hb : schema.bareReference? = none) (hc : schema.composition? = none)
      (hp : schema.hasProperties = false)
      (hs : (schema.isScalar || schema.literals.isSome) = false)
      (ha : schema.primaryType? ≠ some "array")
      (h : ∀ value, schema.additional ≠ some (.schema value)) :
      graph.Describes name generated schema (Model.unshaped name generated schema)

/-- The fields are those of the properties, one by one. -/
inductive Graph.FieldsStand (graph : Graph) :
    List String → List (String × Schema) → List (Field × Option String) → Prop where
  | nil {required : List String} : graph.FieldsStand required [] []
  | cons {required : List String} {key : String} {schema : Schema} {token : TypeToken}
      {rest : List (String × Schema)} {fields : List (Field × Option String)}
      (type : graph.Stands schema token) (others : graph.FieldsStand required rest fields) :
      graph.FieldsStand required ((key, schema) :: rest)
        (Field.ofProperty required key schema token :: fields)

/-- The children are those of the members of a composition, one by one. -/
inductive Graph.MembersStand (graph : Graph) : List Schema → List String → Prop where
  | nil : graph.MembersStand [] []
  | reference {member : Schema} {reference : String} {rest : List Schema} {children : List String}
      (h : member.bareReference? = some reference) (others : graph.MembersStand rest children) :
      graph.MembersStand (member :: rest) (Schema.referencedType reference :: children)
  | inline {member : Schema} {name : String} {rest : List Schema} {children : List String}
      (h : member.isInline = true) (made : graph.Made member name)
      (others : graph.MembersStand rest children) :
      graph.MembersStand (member :: rest) (name :: children)
  | other {member : Schema} {rest : List Schema} {children : List String}
      (hb : member.bareReference? = none) (h : member.isInline = false)
      (others : graph.MembersStand rest children) :
      graph.MembersStand (member :: rest) children

end

end ClientForge
