/-
  Which fixture answers the request of a generated test.

  For each endpoint a test is generated that calls the method with made-up arguments, looks up what it
  should get, and compares the two.  It looks its expectation up by the route template itself, so it
  always finds the fixture of its endpoint.  Its request is looked up by the path, and there all
  templates for the method compete.

  1. **Its own template** takes the path as long as nothing that fills a placeholder leaves its
     segment (`matches_described`).  The made-up values do not — a slash or a question mark is in none
     of them — except where a value is written as JSON by a library, of which nothing is known.
  2. **Other templates** may take the path too.  A literal segment counts for more than a placeholder,
     so a template with the text of an argument as one of its segments comes first, and the test is
     answered with a fixture it does not expect.  Whether the own fixture answers is therefore an
     equivalence with a condition on the other templates (`lookup_own_iff`).

  The main result has both, with the request in front: it is the one that the endpoint describes for
  the arguments (`Sdk.happyPath_answer`).  What a call is, and that names are told apart by their text
  alone, is settled where running a method is defined.

  The last section has two endpoints with crossing templates, `/a/foo/{y}` and `/a/{x}/{z}`, where the
  test of the second is answered by the fixture of the first.
-/
import ClientForge.Client.Basic
import ClientForge.Proofs.Mock.Fixtures
import ClientForge.Proofs.Mock.RouteMatch
import ClientForge.Proofs.Mock.Samples

namespace ClientForge

open ClientForge.Code ClientForge.Sdk ClientForge.Client ClientForge.Samples

variable {α : Type} {s : Samples α} {graph : Graph} {endpoint : Endpoint} {args : Arguments α}

/-! ## The path of the request -/

/-- Every placeholder of the route has a path parameter. -/
def Endpoint.Bound (endpoint : Endpoint) : Prop :=
  ∀ name ∈ Route.placeholders endpoint.route, ∃ field ∈ endpoint.pathParams, field.key = name

/-- Whether every placeholder has a path parameter can be computed. -/
instance (endpoint : Endpoint) : Decidable endpoint.Bound :=
  inferInstanceAs (Decidable (∀ name ∈ Route.placeholders endpoint.route,
    ∃ field ∈ endpoint.pathParams, field.key = name))

/-- The route and what the test puts into it keep to the segments of the route: no slash in the name
of a placeholder, no question mark in literal text, neither of them in JSON. -/
structure Samples.KeepsSegments (s : Samples α) (graph : Graph) (endpoint : Endpoint) : Prop where
  names : ∀ name ∈ Route.placeholders endpoint.route, '/' ∉ name.toList
  literals : ∀ text, Segment.literal text ∈ Route.segments endpoint.route → '?' ∉ text.toList
  json : ∀ field ∈ endpoint.pathParams, wireKind graph field.type.element = .json →
    ∀ v, s.Gives graph field v → OneSegment (fieldWireText s.toLibrary graph field v)

/-- What fills a placeholder stays within its segment. -/
theorem oneSegment_segmentWireText (hs : s.Documented) (hargs : s.GivesAll graph endpoint args)
    (hrequired : ∀ field ∈ endpoint.pathParams, field.required = true) (hbound : endpoint.Bound)
    (hkeeps : s.KeepsSegments graph endpoint) {name : String}
    (hname : name ∈ Route.placeholders endpoint.route) :
    OneSegment (segmentWireText s.toLibrary graph (endpoint.pathParams.zip args.path)
      (.param name)) := by
  obtain ⟨field, hfield, hkey⟩ := hbound name hname
  rw [segmentWireText]
  split
  · rename_i found v hfind
    have hpair := List.mem_of_find?_eq_some hfind
    have hgives : s.Gives graph found v := List.forall₂_zip hargs.path hpair
    have hfound := (List.of_mem_zip hpair).1
    by_cases hjson : wireKind graph found.type.element = .json
    · exact hkeeps.json found hfound hjson v hgives
    · exact hgives.oneSegment hs (hrequired found hfound) hjson
  · -- the parameter has a value, so the search does not miss it
    rename_i hfind
    have hfst := List.map_fst_zip (Nat.le_of_eq hargs.path.length_eq)
    rw [← hfst] at hfield
    obtain ⟨⟨found, v⟩, hpair, rfl⟩ := List.mem_map.1 hfield
    have hmiss := List.find?_eq_none.1 hfind _ hpair
    rw [beq_iff_eq] at hmiss
    exact absurd hkey hmiss

/-- **The template of an endpoint takes the path of its test.** -/
theorem matches_described (hs : s.Documented) (hargs : s.GivesAll graph endpoint args)
    (hrequired : ∀ field ∈ endpoint.pathParams, field.required = true) (hbound : endpoint.Bound)
    (hkeeps : s.KeepsSegments graph endpoint) :
    Mock.Matches endpoint.route
      (Mock.bare (described s.toLibrary graph endpoint args).path) := by
  refine matches_kept (fun _ => rfl) (fun hmem => ?_) _ fun name hname =>
    ⟨hkeeps.names name hname,
      oneSegment_segmentWireText hs hargs hrequired hbound hkeeps hname⟩
  obtain ⟨text, htext, hmark⟩ := Route.mem_literalText.1 hmem
  exact hkeeps.literals text htext hmark

/-! ## The fixture that answers -/

/-- A request with the credential that is accepted is answered with the fixture found for it. -/
theorem mockTransport_of_lookup {table : List Canned} {canned : Canned} {method path : String}
    (h : Mock.lookup table method path = some canned) (url : String) (body : Option String) :
    Client.mockTransport table ⟨method, url, path, validKey, body⟩ =
      .ok ⟨canned.status, canned.body⟩ := by
  rw [Client.mockTransport, h, bne_self_eq_false, if_neg Bool.false_ne_true]

section Answer

variable {config : Config} {endpoints : List Endpoint}

/-- An endpoint's own fixture answers for a path that its template takes, if it outranks every other
template for the method that does. -/
theorem lookup_own_iff (hdistinct : endpoints.Pairwise fun first second =>
      ¬ (first.route = second.route ∧ first.method = second.method))
    (hmem : endpoint ∈ endpoints) (hkept : config.skips endpoint.route = false) (path : String) :
    Mock.lookup (cannedTable config endpoints) endpoint.method.name path =
        some (fixtureOf config endpoint).canned ↔
      Mock.Matches endpoint.route (Mock.bare path) ∧
        ∀ other ∈ endpoints, config.skips other.route = false → other.method = endpoint.method →
          other.route ≠ endpoint.route → Mock.Matches other.route (Mock.bare path) →
            Mock.Outranks endpoint.route other.route := by
  -- Pairs of route and method differ, so no fixture is lost and each stands for one endpoint.
  have hfixture (other : Endpoint) (hother : other ∈ endpoints)
      (hkeptOther : config.skips other.route = false) :
      fixtureOf config other ∈ fixtures config endpoints :=
    (mem_fixtures_of_distinct hdistinct).2 ⟨other, hother, hkeptOther, rfl⟩
  rw [lookup_cannedTable_iff (hfixture endpoint hmem hkept)]
  constructor
  · rintro ⟨hfits, hranks⟩
    refine ⟨hfits.route, fun other hother hkeptOther hmethod hroute hmatches => ?_⟩
    -- Another route, so another fixture: only the endpoint's own entry may be met without a
    -- contest.
    have hne : fixtureOf config other ≠ fixtureOf config endpoint :=
      fun heq => hroute (congrArg Fixture.route heq)
    exact hranks (fixtureOf config other) (hfixture other hother hkeptOther) hne
      ⟨congrArg Method.name hmethod, hmatches⟩
  · rintro ⟨hmatches, hranks⟩
    refine ⟨⟨rfl, hmatches⟩, fun fixture hfound hne hfits => ?_⟩
    -- A fixture that fits is some kept endpoint's, with the same method; by its route it is
    -- another.
    obtain ⟨other, hother, hkeptOther, rfl⟩ := (mem_fixtures_of_distinct hdistinct).1 hfound
    have hmethod : other.method = endpoint.method := Method.name_injective hfits.method
    refine hranks other hother hkeptOther hmethod (fun hroute => hne ?_) hfits.route
    exact eq_of_sameKey hfound (hfixture endpoint hmem hkept) ⟨hroute, hmethod⟩

/-- **What answers the request of an endpoint's test.** The test expects the payload of its own
fixture. Its request is answered with that fixture exactly if the template of the endpoint takes the
path and outranks every other template for the method that takes it; and it does take the path as
long as everything keeps to the segments of the route. The request is that of `Function.send`, which
looks names up and compares them by their text, the mark `r#` included: identifiers that differ by
the mark alone, as `scopes_differ_iff` has them, count as two here. -/
theorem Sdk.happyPath_answer (s : Samples α) (hs : s.Documented) (graph : Graph) (config : Config)
    (endpoints : List Endpoint) (hdistinct : endpoints.Pairwise fun first second =>
      ¬ (first.route = second.route ∧ first.method = second.method))
    (endpoint : Endpoint) (hmem : endpoint ∈ endpoints)
    (hkept : config.skips endpoint.route = false) (hbound : endpoint.Bound)
    (hrequired : ∀ field ∈ endpoint.pathParams, field.required = true)
    (hfree : endpoint.queryParams ≠ [] → "append_query" ∉ paramIdents endpoint) :
    ∃ args : Arguments α, s.GivesAll graph endpoint args ∧
      let request := described s.toLibrary graph endpoint args
      let table := cannedTable config endpoints
      let own := (fixtureOf config endpoint).canned
      s.requestOf (methodOf graph endpoint) (happyPath graph endpoint) = some request ∧
      expectedBody? table (happyPath graph endpoint) =
        (if responseType graph endpoint = .unit then none else some own.body) ∧
      (Mock.lookup table request.method request.path = some own ↔
        Mock.Matches endpoint.route (Mock.bare request.path) ∧
          ∀ other ∈ endpoints, config.skips other.route = false →
            other.method = endpoint.method → other.route ≠ endpoint.route →
              Mock.Matches other.route (Mock.bare request.path) →
                Mock.Outranks endpoint.route other.route) ∧
      (Mock.lookup table request.method request.path = some own → ∀ url body,
        Client.mockTransport table ⟨request.method, url, request.path, validKey, body⟩ =
          .ok ⟨endpoint.status, fixtureBody config endpoint⟩) ∧
      (s.KeepsSegments graph endpoint →
        Mock.Matches endpoint.route (Mock.bare request.path)) := by
  obtain ⟨args, hargs⟩ := exists_givesAll hs graph endpoint
  refine ⟨args, hargs, ?_⟩
  have hfixture : fixtureOf config endpoint ∈ fixtures config endpoints :=
    (mem_fixtures_of_distinct hdistinct).2 ⟨endpoint, hmem, hkept, rfl⟩
  have hrequest := hargs.requestOf_happyPath hs hrequired hfree
  -- The expected body is looked up by the route's own text, not by the path that is sent.
  have hexpected := expectedBody?_happyPath (cannedTable config endpoints) graph endpoint
  have hbody : Mock.bodyOf (cannedTable config endpoints) endpoint.route endpoint.method.name =
      (fixtureOf config endpoint).canned.body := bodyOf_cannedTable hfixture
  rw [hbody] at hexpected
  intro request table own
  refine ⟨hrequest, hexpected, ?_, ?_, ?_⟩
  · -- What the path that is sent meets: the fits and the ranks of the table, read as endpoints.
    have hmethod : request.method = endpoint.method.name := rfl
    rw [hmethod]
    exact lookup_own_iff hdistinct hmem hkept request.path
  · exact mockTransport_of_lookup
  · exact matches_described hs hargs hrequired hbound

end Answer

/-! ## Two templates for one path -/

/-- Libraries that show every value as it stands. -/
def plainSamples : Samples String where
  toLibrary := plainLibrary
  whole := signedText
  real _ := "1"
  symbol _ text := text
  day := "1970-01-01"
  moment := "1970-01-01T00:00:00Z"
  default _ := .shown "null"

/-- These libraries answer as documented. -/
theorem documented_plainSamples : plainSamples.Documented where
  whole _ := rfl
  one := rfl
  symbol _ _ := rfl
  day := rfl
  moment := rfl
  null := ⟨"null", rfl, rfl⟩

/-- An endpoint with a literal segment behind its placeholder. -/
def shopItems : Endpoint where
  name := "ListItems"
  method := .get
  route := "/shops/\x7bshop\x7d/items"
  response := some (.array (.primitive .int32))
  pathParams := [.param "shop" (.primitive .string) .path true]
  queryParams := [.param "limit" (.primitive .int32) .query false]
  sample := some (.array [.integer 3])

/-- An endpoint whose template takes the paths of the other one too. -/
def shopPage : Endpoint where
  name := "ShowPage"
  method := .get
  route := "/shops/\x7bshop\x7d/\x7bpage\x7d"
  response := some (.primitive .string)
  pathParams := [.param "shop" (.primitive .string) .path true,
    .param "page" (.primitive .string) .path true]
  sample := some (.text "welcome")

/-- The route and what is put into it keep to the segments. -/
theorem keepsSegments_shopItems : plainSamples.KeepsSegments .empty shopItems where
  names := by decide +kernel
  literals := by
    have hsegments : Route.segments shopItems.route =
        [.literal "/shops/", .param "shop", .literal "/items"] := by decide +kernel
    intro text hmem
    rw [hsegments] at hmem
    simp only [List.mem_cons, Segment.literal.injEq, List.not_mem_nil, or_false, reduceCtorEq,
      false_or] at hmem
    rcases hmem with rfl | rfl <;> decide
  json := by
    intro field hfield hjson
    rw [List.mem_singleton.1 hfield] at hjson
    exact absurd hjson (by decide)

/-- Both templates take the path, and the one with the literal segment answers. -/
theorem Sdk.happyPath_answer_shop :
    ∃ request, plainSamples.requestOf (methodOf .empty shopItems) (happyPath .empty shopItems) =
        some request ∧
      request.path = "/shops/foo/items?limit=1" ∧
      Client.mockTransport (cannedTable {} [shopItems, shopPage])
        ⟨request.method, "", request.path, validKey, none⟩ = .ok ⟨200, "[3]"⟩ := by
  have hbound : shopItems.Bound := by decide +kernel
  obtain ⟨args, hargs, hrequest, -, hown, hanswer, htakes⟩ := Sdk.happyPath_answer plainSamples
    documented_plainSamples .empty {} [shopItems, shopPage] (by decide +kernel) shopItems
    List.mem_cons_self rfl hbound (by decide) (by decide +kernel)
  have hgiven : plainSamples.GivesAll .empty shopItems
      ⟨[.text "foo"], [.option (some (.shown (signedText 1)))], none⟩ :=
    ⟨.cons rfl .nil, .cons rfl .nil, rfl⟩
  obtain rfl := hargs.unique hgiven
  refine ⟨_, hrequest, by decide +kernel, ?_⟩
  have hbody : fixtureBody {} shopItems = "[3]" := by decide +kernel
  rw [← hbody]
  refine hanswer (hown.2 ⟨htakes keepsSegments_shopItems, ?_⟩) "" none
  intro other hother _ _ hroute _
  rcases List.mem_cons.1 hother with rfl | hother
  · exact absurd rfl hroute
  · -- the page has two placeholders, the items have one
    rw [List.mem_singleton.1 hother]
    exact Or.inl (by decide +kernel)

/-- An endpoint with the text of an argument as a segment of its route. -/
def crossingFixed : Endpoint where
  name := "ReadFixed"
  method := .get
  route := "/a/foo/\x7by\x7d"
  response := some (.primitive .int32)
  pathParams := [.param "y" (.primitive .int32) .path true]
  sample := some (.integer 1)

/-- An endpoint with placeholders in both places. -/
def crossingFree : Endpoint where
  name := "ReadFree"
  method := .get
  route := "/a/\x7bx\x7d/\x7bz\x7d"
  response := some (.primitive .int32)
  pathParams := [.param "x" (.primitive .string) .path true,
    .param "z" (.primitive .string) .path true]
  sample := some (.integer 2)

/-- The test of the second endpoint expects its own payload and is given the first one's. -/
theorem Sdk.happyPath_crossing :
    [crossingFixed, crossingFree].Pairwise (fun first second =>
      ¬ (first.route = second.route ∧ first.method = second.method)) ∧
    crossingFixed.Bound ∧ crossingFree.Bound ∧ Config.skips {} crossingFree.route = false ∧
    expectedBody? (cannedTable {} [crossingFixed, crossingFree])
      (happyPath .empty crossingFree) = some "2" ∧
    ∃ request, plainSamples.requestOf (methodOf .empty crossingFree)
        (happyPath .empty crossingFree) = some request ∧
      request.path = "/a/foo/foo" ∧
      Client.mockTransport (cannedTable {} [crossingFixed, crossingFree])
        ⟨request.method, "", request.path, validKey, none⟩ = .ok ⟨200, "1"⟩ := by
  have hgiven : plainSamples.GivesAll .empty crossingFree ⟨[.text "foo", .text "foo"], [], none⟩ :=
    ⟨.cons rfl (.cons rfl .nil), .nil, rfl⟩
  have hfixed : crossingFixed.Bound := by decide +kernel
  have hfree : crossingFree.Bound := by decide +kernel
  refine ⟨by decide +kernel, hfixed, hfree, rfl, by decide +kernel, _,
    hgiven.requestOf_happyPath documented_plainSamples (by decide) (by decide), by decide +kernel,
    ?_⟩
  have hlookup : Mock.lookup (cannedTable {} [crossingFixed, crossingFree])
      "GET" "/a/foo/foo" = some ⟨crossingFixed.route, "GET", 200, "1"⟩ := by decide +kernel
  exact mockTransport_of_lookup hlookup "" none

end ClientForge
