/-
  Endpoints: the operations of a document, ready to become methods of a client.

  An endpoint knows its route and method, the types of what it takes and gives, and the status and
  example with which a stand-in for the server answers it.
-/
import ClientForge.Endpoint.Method
import ClientForge.Endpoint.Route
import ClientForge.Json.Basic
import ClientForge.Model.Basic

namespace ClientForge

/-- The body that a request takes. -/
structure Payload where
  type : TypeToken
  required : Bool
deriving DecidableEq, Repr, Inhabited

/-- One operation. -/
structure Endpoint where
  name : String
  method : Method
  /-- The route template. -/
  route : String
  description : Option String := none
  request : Option Payload := none
  /-- What a success gives; nothing where it gives no value. -/
  response : Option TypeToken := none
  pathParams : List Field := []
  queryParams : List Field := []
  /-- The example of what a success gives. -/
  sample : Option Json := none
  /-- The status of a success. -/
  status : Nat := 200
deriving Inhabited

namespace Endpoint

/-- The parameters in the order of the method's arguments: the path ones first. -/
def params (endpoint : Endpoint) : List Field := endpoint.pathParams ++ endpoint.queryParams

/-- The path parameter for a placeholder; of two with one name the first. -/
def pathParam? (endpoint : Endpoint) (placeholder : String) : Option Field :=
  endpoint.pathParams.find? fun field => field.key == placeholder

/-- The first placeholder of the route for which there is no path parameter. -/
def unbound? (route : String) (pathParams : List Field) : Option String :=
  (Route.placeholders route).find? fun name => !pathParams.any fun field => field.key == name

/-- The types that the endpoint mentions. -/
def types (endpoint : Endpoint) : List TypeToken :=
  endpoint.response.toList ++ endpoint.request.toList.map Payload.type
    ++ endpoint.params.map Field.type

end Endpoint

end ClientForge
