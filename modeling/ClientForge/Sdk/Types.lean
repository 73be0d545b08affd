/-
  The types of generated code, and how values of them are written on the wire.

  A model that the graph does not hold has no type of its own and stands for any value.  What a
  parameter is written as depends on the scalar behind its type: text as it is, enumerations by
  their text, dates and times in their standard forms, truth values as words, other numbers by
  their own text, and everything else as JSON.
-/
import ClientForge.Code.Basic
import ClientForge.Endpoint.Basic
import ClientForge.Model.Graph

namespace ClientForge.Sdk

open ClientForge.Code

/-! ## Types -/

/-- The type of a token. -/
def typeOf (graph : Graph) : TypeToken → Ty
  | .primitive p => .path p.rustName
  | .named name => if graph.contains name then .path name else .anyValue
  | .array item => .vec (typeOf graph item)
  | .map value => .map (typeOf graph value)
  | .any => .anyValue

/-- The type of what a success gives. -/
def responseType (graph : Graph) (endpoint : Endpoint) : Ty :=
  match endpoint.response with
  | some token => typeOf graph token
  | none => .unit

/-- The type of an argument: optional unless it is required or a list. -/
def paramType (graph : Graph) (field : Field) : Ty :=
  let type := typeOf graph field.type
  if field.required || field.isArray then type else .option type

/-- The type of the argument for the body. -/
def bodyType (graph : Graph) (payload : Payload) : Ty :=
  let type := typeOf graph payload.type
  if payload.required then type else .option type

/-! ## Wire text -/

/-- How a value becomes text. -/
inductive WireKind where
  /-- It is text. -/
  | text
  /-- It is one of an enumeration of texts. -/
  | textEnum
  /-- It has a text of its own. -/
  | display
  | date
  | dateTime
  | bool
  /-- By its JSON text. -/
  | json
deriving DecidableEq, Repr

/-- How values with a scalar behind their type become text. -/
def WireKind.ofPrimitive : Primitive → WireKind
  | .string => text
  | .date => date
  | .dateTime => dateTime
  | .boolean => bool
  | _ => display

/-- Whether the token names an enumeration of texts. -/
def isTextEnum (graph : Graph) : TypeToken → Bool
  | .named name => graph.isStringEnum name
  | _ => false

/-- How a value of the token becomes text. -/
def wireKind (graph : Graph) (token : TypeToken) : WireKind :=
  if isTextEnum graph token then .textEnum
  else if token = .any then .display
  else match graph.scalarOf? token with
    | some p => .ofPrimitive p
    | none => .json

end ClientForge.Sdk
