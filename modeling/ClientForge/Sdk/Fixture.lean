/-
  Fixtures: what the stand-in for the server answers.

  There is one for each route and method that is not excluded, in the order of routes and then of
  methods; of two endpoints for the same route and method the later counts.  The body is the
  configured payload, else the example, else null, always in its compact text.
-/
import ClientForge.Code.Basic
import ClientForge.Config.Basic
import ClientForge.Endpoint.Basic
import ClientForge.Ordered.Table

namespace ClientForge.Sdk

open ClientForge.Code

/-- The answer for one route and method. -/
structure Fixture where
  route : String
  method : Method
  status : Nat
  /-- JSON text. -/
  body : String
deriving DecidableEq, Repr, Inhabited

/-- The body for an endpoint. -/
def fixtureBody (config : Config) (endpoint : Endpoint) : String :=
  match (config.payload? endpoint.route endpoint.method).or endpoint.sample with
  | some payload => payload.compact
  | none => "null"

/-- The fixture of an endpoint. -/
def fixtureOf (config : Config) (endpoint : Endpoint) : Fixture where
  route := endpoint.route
  method := endpoint.method
  status := endpoint.status
  body := fixtureBody config endpoint

/-- The fixtures of one route in the order of methods, with one put at its place. -/
def insertByMethod (fixture : Fixture) : List Fixture → List Fixture
  | [] => [fixture]
  | other :: rest =>
    if fixture.method.rank < other.method.rank then fixture :: other :: rest
    else if fixture.method = other.method then fixture :: rest
    else other :: insertByMethod fixture rest

/-- The fixtures by route with one more put at its place. -/
def insertFixture (byRoute : Table (List Fixture)) (fixture : Fixture) : Table (List Fixture) :=
  byRoute.insert fixture.route
    (insertByMethod fixture ((byRoute.get? fixture.route).getD []))

/-- The fixtures for the endpoints. -/
def fixtures (config : Config) (endpoints : List Endpoint) : List Fixture :=
  let kept := endpoints.filter fun endpoint => !config.skips endpoint.route
  ((kept.map (fixtureOf config)).foldl insertFixture .empty).values.flatten

/-- The record for a fixture. -/
def fixtureRecord (fixture : Fixture) : Expr :=
  .record "Fixture" [("route", .text fixture.route), ("method", .text fixture.method.name),
    ("status", .int fixture.status), ("body", .rawText fixture.body)]

/-- The module of the fixtures. -/
def mockModule (fixtures : List Fixture) : Module where
  doc := ["Mock transport fixtures generated from the API document examples."]
  uses := ["crate::transport::Fixture"]
  decls := [.item (.constant "FIXTURES" (.path "&[Fixture]")
    (.slice (fixtures.map fixtureRecord)))]

end ClientForge.Sdk
