/-
  Schemas: what a document says about the shape of a value.

  Only what decides the generated types is kept.  A schema may refer to a component, compose other
  schemas, list properties, list the literals it allows, or merely name a type.
-/
import ClientForge.Json.Basic

namespace ClientForge

/-- What the `type` of a schema says. -/
inductive TypeName where
  | single (name : String)
  /-- Several types, `null` usually among them. -/
  | several (names : List String)
deriving DecidableEq, Repr, Inhabited

/-- The first type that is not `null`, or the only one. -/
def TypeName.primary? : TypeName → Option String
  | single name => some name
  | several names => names.find? (· != "null")

/-- A value that an enumeration allows. -/
inductive Literal where
  | text (s : String)
  | integer (n : Int)
  | real (x : Binary64)
  | bool (b : Bool)
  | null
deriving DecidableEq, Repr, Inhabited

/-- The text of a literal; null has none. -/
def Literal.text? : Literal → Option String
  | text s => some s
  | integer n => some (signedText n)
  | real x => some (Binary64.Layout.positional.text x)
  | bool b => some (if b then "true" else "false")
  | null => none

/-- What is said about members beyond the listed ones, `σ` being the type of schemas. -/
inductive Additional (σ : Type) where
  /-- Whether they are allowed. -/
  | allowed (b : Bool)
  /-- The schema of each of them. -/
  | schema (s : σ)
deriving Repr, Inhabited

/-- A schema; `properties` has each key once, in key order. -/
structure Schema where
  type : Option TypeName := none
  reference : Option String := none
  title : Option String := none
  description : Option String := none
  properties : Option (List (String × Schema)) := none
  required : Option (List String) := none
  items : Option Schema := none
  literals : Option (List Literal) := none
  anyOf : Option (List Schema) := none
  oneOf : Option (List Schema) := none
  allOf : Option (List Schema) := none
  additional : Option (Additional Schema) := none
  format : Option String := none
  sample : Option Json := none
  nullable : Option Bool := none
deriving Inhabited

namespace Schema

/-- The name of the type, if any but `null` is given. -/
def primaryType? (schema : Schema) : Option String := schema.type.bind TypeName.primary?

/-- Whether the schema refers to a component and says nothing of its own. -/
def isBareReference (schema : Schema) : Bool :=
  schema.reference.isSome && schema.type.isNone && schema.properties.isNone
    && schema.items.isNone && schema.allOf.isNone && schema.oneOf.isNone && schema.anyOf.isNone

/-- The reference of a schema that is nothing else. -/
def bareReference? (schema : Schema) : Option String :=
  if schema.isBareReference then schema.reference else none

/-- Whether the schema is that of a single value. -/
def isScalar (schema : Schema) : Bool :=
  (match schema.primaryType? with
    | some type => ["string", "number", "integer", "boolean"].contains type
    | none => false)
  && schema.properties.isNone

/-- The schemas that this one composes, and whether they are alternatives and not parts. -/
def composition? (schema : Schema) : Option (List Schema × Bool) :=
  match schema.allOf with
  | some members => some (members, false)
  | none => (schema.oneOf.or schema.anyOf).map fun members => (members, true)

/-- The properties, none where none are listed. -/
def ownProperties (schema : Schema) : List (String × Schema) := schema.properties.getD []

/-- Whether at least one property is listed. -/
def hasProperties (schema : Schema) : Bool := !schema.ownProperties.isEmpty

/-- Whether the schema says just that the value is null. -/
def isNull (schema : Schema) : Bool := schema.type == some (.single "null")

end Schema

end ClientForge
