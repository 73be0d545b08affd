/-
  The request that an endpoint describes.

  What a generated method is to send can be read off its endpoint and the values of the arguments,
  without a look at the generated code, and that is what is written down here.

  * **Arguments** (`Arguments.Fit`).  There is a value for each parameter, and it is one that the
    parameter can have: a list of items for a list, a single value for anything else, which may be
    missing where the parameter is not required.  How a single value looks is told by how it is written
    (`Fits`).
  * **The path** is the route with each placeholder replaced by the value of the first path parameter
    with that key.  A placeholder without one stays as it is.
  * **The query** has a pair for each parameter that is required, and for one that is not if there is
    something to say: a list with an item, or a value that is not missing.  The pairs are in the order
    of the parameters.
  * **The body** is the argument for it, if the endpoint takes one and it is not missing.

  The definitions are in terms of the graph only as far as it tells how a type is written.  That the
  generated code does this is the subject of the modules that follow.
-/
import Mathlib.Data.List.Forall2
import ClientForge.Proofs.Request.WireText

namespace ClientForge

open ClientForge.Code ClientForge.Sdk

variable {α : Type}

/-! ## Arguments -/

/-- The values of a method's arguments. -/
structure Arguments (α : Type) where
  path : List (Value α)
  query : List (Value α)
  /-- The argument for the body, where the method has one. -/
  body : Option (Value α)

/-- The values in the order of the method's parameters. -/
def Arguments.toList (args : Arguments α) : List (Value α) :=
  args.path ++ args.query ++ args.body.toList

/-- The value is one that the parameter can have: a list of items for a list, else a single value,
which may be missing unless it is required. -/
def Field.Admits (graph : Graph) (field : Field) (value : Value α) : Prop :=
  if field.isArray then
    ∃ items, value = .list items ∧ ∀ item ∈ items, item.Fits (wireKind graph field.type.element)
  else if field.required then value.Fits (wireKind graph field.type)
  else ∃ inner, value = .option inner ∧ ∀ v ∈ inner, v.Fits (wireKind graph field.type)

/-- The argument for the body is there exactly if the request takes one; it is optional unless the
body is required. -/
def bodyAdmits (request : Option Payload) (value : Option (Value α)) : Prop :=
  match request with
  | none => value = none
  | some payload =>
    if payload.required then ∃ v, value = some v else ∃ inner, value = some (.option inner)

/-- There is a value for each parameter, and it is one that the parameter can have. -/
structure Arguments.Fit (graph : Graph) (endpoint : Endpoint) (args : Arguments α) : Prop where
  path : List.Forall₂ (Field.Admits graph) endpoint.pathParams args.path
  query : List.Forall₂ (Field.Admits graph) endpoint.queryParams args.query
  body : bodyAdmits endpoint.request args.body

/-! ## The request -/

section Described

variable (lib : Library α) (graph : Graph)

/-- How the value of a parameter that is not optional is written. -/
def fieldWireText (field : Field) (value : Value α) : String :=
  match field.isArray, value with
  | true, .list items => lib.listWireText (wireKind graph field.type.element) items
  | _, value => lib.wireText (wireKind graph field.type) value

/-- What a segment adds to the path: literal text as it is, for a placeholder the value of the first
parameter with that key. -/
def segmentWireText (params : List (Field × Value α)) : Segment → String
  | .literal text => text
  | .param name => match params.find? fun (field, _) => field.key == name with
    | some (field, value) => fieldWireText lib graph field value
    | none => "\x7b" ++ name ++ "\x7d"

/-- The pair that a parameter adds to the query: always if it is required, else only for a list with
an item and for a single value that is there. -/
def queryPair? (param : Field × Value α) : Option (String × String) :=
  let (field, value) := param
  if field.required then some (field.key, fieldWireText lib graph field value)
  else match value with
    | .list items =>
      if items.isEmpty then none else some (field.key, fieldWireText lib graph field value)
    | .option inner => inner.map fun v => (field.key, fieldWireText lib graph field v)
    | _ => none

/-- The body that is sent. -/
def describedBody (request : Option Payload) (value : Option (Value α)) : Option (Value α) :=
  match request with
  | none => none
  | some payload => if payload.required then value else match value with
    | some (.option inner) => inner
    | _ => none

/-- **The request that the endpoint describes** for these values. -/
def described (endpoint : Endpoint) (args : Arguments α) : Request α where
  method := endpoint.method.name
  path :=
    let segments := (Route.segments endpoint.route).map
      (segmentWireText lib graph (endpoint.pathParams.zip args.path))
    Query.append (String.join segments)
      ((endpoint.queryParams.zip args.query).filterMap (queryPair? lib graph))
  body := describedBody endpoint.request args.body

end Described

end ClientForge
