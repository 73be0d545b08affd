/-
  Models: the named types of a document, before they become code.

  A type is a token: a scalar, a model's name, a list, a map, or anything at all.  A model holds
  fields, or composes other models, or is another name for a type, or is a closed set of
  literals; which of these it renders as is its shape, and exactly one shape applies.
-/
import ClientForge.Ordered.Names
import ClientForge.Ordered.Table

namespace ClientForge

/-! ## Scalars -/

/-- A scalar type, its format folded in. -/
inductive Primitive where
  | string
  | date
  | dateTime
  | int32
  | int64
  | integer
  | float
  | double
  | number
  | boolean
deriving DecidableEq, Repr

namespace Primitive

/-- The scalar that a schema's type and format stand for. -/
def ofSchema? (type : String) (format : Option String) : Option Primitive :=
  match type with
  | "string" => some (match format with
    | some "date" => date
    | some "date-time" => dateTime
    | _ => string)
  | "integer" => some (match format with
    | some "int32" => int32
    | some "int64" => int64
    | _ => integer)
  | "number" => some (match format with
    | some "float" => float
    | some "double" => double
    | _ => number)
  | "boolean" => some boolean
  | _ => none

/-- The type that holds the scalar in generated code. -/
def rustName : Primitive → String
  | string => "String"
  | date => "chrono::NaiveDate"
  | dateTime => "chrono::DateTime<chrono::Utc>"
  | int32 => "i32"
  | int64 | integer => "i64"
  | float => "f32"
  | double | number => "f64"
  | boolean => "bool"

end Primitive

/-! ## Type tokens -/

/-- The declared type of a field, a parameter, an alias or a payload. -/
inductive TypeToken where
  | primitive (p : Primitive)
  /-- A model by its name. -/
  | named (name : String)
  | array (item : TypeToken)
  /-- Text keys to values of one type. -/
  | map (value : TypeToken)
  /-- Any value. -/
  | any
deriving DecidableEq, Repr, Inhabited

namespace TypeToken

/-- Whether this is a list. -/
def isArray : TypeToken → Bool
  | array _ => true
  | _ => false

/-- The model named innermost, through lists and maps. -/
def innermost? : TypeToken → Option String
  | named name => some name
  | array inner => inner.innermost?
  | map inner => inner.innermost?
  | primitive _ => none
  | any => none

/-- The item type of a list; any other type is its own. -/
def element : TypeToken → TypeToken
  | array item => item
  | other => other

/-- The token wrapped in `depth` levels of list. -/
def inArrays : Nat → TypeToken → TypeToken
  | 0, token => token
  | depth + 1, token => array (inArrays depth token)

end TypeToken

/-! ## Fields -/

/-- Where a value goes on the wire. -/
inductive Location where
  | body
  | path
  | query
deriving DecidableEq, Repr

/-- A property of a model, or a parameter of an operation. -/
structure Field where
  /-- The name in the document. -/
  key : String
  type : TypeToken
  description : Option String := none
  /-- Whether the value must be present. -/
  required : Bool := false
  location : Location := .body
deriving DecidableEq, Repr

namespace Field

/-- A parameter; one in the path is always required. -/
def param (key : String) (type : TypeToken) (location : Location) (required : Bool) : Field where
  key := key
  type := type
  required := required || location == .path
  location := location

/-- Whether the field holds a list. -/
def isArray (field : Field) : Bool := field.type.isArray

end Field

/-! ## Models -/

/-- How a model renders. -/
inductive Shape where
  /-- Another name for a scalar with a closed set of literals. -/
  | enumAlias
  /-- Another name for a type. -/
  | plainAlias
  /-- A record with fields of its own. -/
  | struct
  /-- A record made of other models. -/
  | composition
  /-- A map to any values. -/
  | empty
deriving DecidableEq, Repr

/-- A named type. -/
structure Model where
  name : String
  /-- The fields by their document names. -/
  fields : Table Field := .empty
  /-- The models composed, or the literals of an enumeration. -/
  children : Names := .empty
  /-- The type this is another name for. -/
  aliasOf : Option TypeToken := none
  description : Option String := none
  /-- Made up during the run, not named by the document. -/
  generated : Bool := false
  /-- Restricted to a set of literals. -/
  isEnum : Bool := false
  /-- The children are alternatives and not parts of one whole. -/
  union : Bool := false
deriving DecidableEq

namespace Model

/-- The one shape that applies. -/
def shape (model : Model) : Shape :=
  if model.isEnum && model.aliasOf.isSome then .enumAlias
  else if model.aliasOf.isSome then .plainAlias
  else if !model.fields.isEmpty then .struct
  else if !model.children.isEmpty then .composition
  else .empty

/-- Whether the model is an enumeration of texts. -/
def isStringEnum (model : Model) : Bool :=
  model.isEnum && model.aliasOf == some (.primitive .string)

/-- The model with a field added under its key. -/
def withField (model : Model) (field : Field) : Model :=
  { model with fields := model.fields.insert field.key field }

/-- The names of the models that this one refers to: along the types of its fields and its alias,
and its children unless they are literals. -/
def references (model : Model) : List String :=
  (if model.isEnum then [] else model.children.toList)
    ++ model.fields.values.filterMap (fun field => field.type.innermost?)
    ++ model.aliasOf.toList.filterMap TypeToken.innermost?

end Model

end ClientForge
