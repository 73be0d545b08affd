/-
  Extraction is complete, in order, and fails on unbound placeholders only.

  The operations of a document are visited in a fixed order: routes as they are listed, or sorted by
  their text if none is, and on a route the methods one after the other.  An operation is an endpoint
  if every placeholder of its route is bound, which is to say that a path parameter of that name is
  declared by the operation or by the route.  The first operation with an unbound placeholder stops
  the run.

  1. **The run** (`endpointsOf_spec`): along the visits, by induction.  It ends with an endpoint for
     each visit, in the order of the visits, or with the first placeholder of the first visit that
     lacks one.  Both outcomes are told in one statement, so that the induction has each at hand.
  2. **The order** (`map_visits`): which endpoints those are can be read off the routes and the
     methods that each of them has; names and types play no part in it.
  3. **The path** (`pathStatements_buildsPath`): the code of an endpoint puts its path together
     segment by segment.  What it adds for a placeholder is the text of a parameter and never the
     placeholder's own text — this is where it counts that all of them are bound, since for an unbound
     one the code has nothing better than the literal (`segmentText`).
  4. **The whole** (`Document.extract_complete`): success is exactly that all are bound, and a failure
     names the first offender.

  That a run which succeeds has bound everything would be the lesser half.  The other half, that
  nothing but an unbound placeholder makes it fail, holds because no other step of a visit can fail.
-/
import ClientForge.Proofs.Endpoints.Binding
import ClientForge.Proofs.Graph.Lookup
import ClientForge.Proofs.Request.Identifiers
import ClientForge.Sdk.Client

namespace ClientForge

open ClientForge.Code ClientForge.Sdk

namespace Extraction

/-! ## The run -/

/-- **What becomes of a row of operations:** an endpoint for each of them, or the first unbound
placeholder of the first one that has any. -/
theorem endpointsOf_spec (doc : Document) (visits : List Visit) (names : Names) :
    match endpointsOf doc visits names with
    | .error cause => ∃ visit, FirstLacking (Bound doc) visits visit ∧ FirstUnbound doc visit cause
    | .ok built => (∀ visit ∈ visits, Bound doc visit) ∧
        List.Forall₂ Serves visits built.result := by
  induction visits generalizing names with
  | nil => exact ⟨fun visit hmem => absurd hmem List.not_mem_nil, .nil⟩
  | cons visit rest ih =>
    obtain ⟨route, item, method, op⟩ := visit
    have hfirst := endpointOf_spec doc route item method op names
    unfold endpointsOf
    cases hendpoint : endpointOf doc route item method op names with
    | error cause =>
      rw [hendpoint] at hfirst
      -- the first visit fails, so it is the first that lacks something, and nothing behind it was
      -- visited
      exact ⟨_, firstLacking_cons.2 (Or.inl ⟨hfirst.not_bound, rfl⟩), hfirst⟩
    | ok endpoint =>
      rw [hendpoint] at hfirst
      obtain ⟨hbound, hserves⟩ := hfirst
      -- the names taken by this endpoint matter to the rest, but not to whether the rest is bound
      have hrest := ih endpoint.names
      dsimp only
      cases hothers : endpointsOf doc rest endpoint.names with
      | error cause =>
        rw [hothers] at hrest
        obtain ⟨visit, hlacking, hunbound⟩ := hrest
        exact ⟨visit, firstLacking_cons.2 (Or.inr ⟨hbound, hlacking⟩), hunbound⟩
      | ok others =>
        rw [hothers] at hrest
        exact ⟨List.forall_mem_cons.2 ⟨hbound, hrest.1⟩, .cons hserves hrest.2⟩

/-! ## The order of the endpoints -/

/-- The methods of the operations on a route, in the fixed order; a route that the document lacks
has none. -/
def methodsOn (doc : Document) (route : String) : List Method :=
  match doc.paths.get? route with
  | some item => [.get, .post, .put, .patch, .delete].filter fun m => (item.operation? m).isSome
  | none => []

/-- The operations on a route are those of the methods it has, in the order of the methods. -/
theorem map_fst_operations (item : PathItem) :
    item.operations.map Prod.fst = Method.all.filter fun m => (item.operation? m).isSome := by
  unfold PathItem.operations
  induction Method.all with
  | nil => rfl
  | cons method rest ih =>
    cases hop : item.operation? method with
    | none => simp [hop, ih]
    | some op => simp [hop, ih]

/-- What is visited: route by route, and on a route the methods that it has. -/
theorem map_visits (doc : Document) (routes : List String) :
    (visits doc routes).map (fun visit => (visit.1, visit.2.2.1)) =
      (routeOrder doc routes).flatMap fun route =>
        (methodsOn doc route).map fun m => (route, m) := by
  unfold visits
  rw [List.map_flatMap]
  congr 1
  funext route
  unfold methodsOn
  cases doc.paths.get? route with
  | none => rfl
  | some item =>
    dsimp only
    rw [List.map_map, show [.get, .post, .put, .patch, .delete] = Method.all from rfl,
      ← map_fst_operations, List.map_map]
    rfl

/-- Endpoints that serve a row of visits have the routes and the methods of these, in the same
order. -/
theorem map_of_serves {visits : List Visit} {endpoints : List Endpoint}
    (h : List.Forall₂ Serves visits endpoints) :
    endpoints.map (fun endpoint => (endpoint.route, endpoint.method)) =
      visits.map fun visit => (visit.1, visit.2.2.1) := by
  induction h with
  | nil => rfl
  | cons hserves _ ih => rw [List.map_cons, List.map_cons, ih, hserves.route, hserves.method]

/-! ## The statements of the path -/

/-- The statement that adds a text to the path. -/
def pushText (text : Expr) : Stmt := .run (.method (.ident "path") "push_str" [text])

/-- The text of a parameter is never a text that is fixed. -/
theorem pathText_ne_text (graph : Graph) (field : Field) (ident text : String) :
    pathText graph field ident ≠ .text text := by
  unfold pathText
  split
  · exact nofun
  · split <;> exact nofun

/-- The statement adds a segment of the route to the path: a literal as it is, and for a placeholder
the text of a path parameter of that name, which is no literal. -/
inductive AddsSegment (graph : Graph) (bound : List (Field × String)) : Segment → Stmt → Prop
  | literal (text : String) : AddsSegment graph bound (.literal text) (pushText (.text text))
  | param {field : Field} {ident : String} (hmem : (field, ident) ∈ bound)
      (htext : ∀ text, pathText graph field ident ≠ .text text) :
      AddsSegment graph bound (.param field.key) (pushText (pathText graph field ident))

/-- The statements start the path, with the first segment if that is a literal, and add each other
segment in order. -/
def BuildsPath (graph : Graph) (bound : List (Field × String)) (segments : List Segment)
    (statements : List Stmt) : Prop :=
  ∃ mutable start rest pushes, statements = .letIn "path" mutable none start :: pushes ∧
    List.Forall₂ (AddsSegment graph bound) rest pushes ∧
    ((∃ text, segments = .literal text :: rest ∧ start = .call "String::from" [.text text]) ∨
      (segments = rest ∧ (∀ text others, segments ≠ .literal text :: others) ∧
        start = .call "String::new" []))

/-- What is added for a segment is right, if the segment is bound in case it is a placeholder. -/
theorem addsSegment_segmentText {graph : Graph} {bound : List (Field × String)} {segment : Segment}
    (h : ∀ name, segment = .param name → ∃ entry ∈ bound, entry.1.key = name) :
    AddsSegment graph bound segment (pushText (segmentText graph bound segment)) := by
  cases segment with
  | literal text => exact .literal text
  | param name =>
    obtain ⟨entry, hentry, hkey⟩ := h name rfl
    unfold segmentText
    dsimp only
    split
    · rename_i field ident hfind
      have hfield := List.find?_some hfind
      obtain rfl : field.key = name := eq_of_beq hfield
      exact .param (List.mem_of_find?_eq_some hfind) (pathText_ne_text graph field ident)
    · rename_i hfind
      exact absurd (beq_iff_eq.2 hkey) (List.find?_eq_none.1 hfind entry hentry)

/-- **Every placeholder is replaced,** if each is the key of a path parameter with an
identifier. -/
theorem pathStatements_buildsPath {graph : Graph} {endpoint : Endpoint} {idents : List String}
    (h : ∀ name ∈ Route.placeholders endpoint.route,
      ∃ entry ∈ endpoint.pathParams.zip idents, entry.1.key = name) :
    BuildsPath graph (endpoint.pathParams.zip idents) (Route.segments endpoint.route)
      (pathStatements graph endpoint idents) := by
  have hadds : ∀ segment ∈ Route.segments endpoint.route,
      AddsSegment graph (endpoint.pathParams.zip idents) segment
        (pushText (segmentText graph (endpoint.pathParams.zip idents) segment)) := by
    intro segment hmem
    refine addsSegment_segmentText fun name hname => h name ?_
    exact List.mem_filterMap.2 ⟨segment, hmem, by rw [hname]; rfl⟩
  have hpushes : ∀ rest : List Segment,
      (∀ segment ∈ rest, segment ∈ Route.segments endpoint.route) →
      List.Forall₂ (AddsSegment graph (endpoint.pathParams.zip idents)) rest
        (rest.map fun segment =>
          pushText (segmentText graph (endpoint.pathParams.zip idents) segment)) := by
    intro rest hsub
    rw [List.forall₂_map_right_iff, List.forall₂_same]
    exact fun segment hmem => hadds segment (hsub segment hmem)
  unfold pathStatements
  dsimp only
  split
  · rename_i text rest hsegments
    -- a literal at the front is what the path starts with, and only what follows is added to it
    refine ⟨_, _, rest, _, rfl, hpushes rest fun segment hmem => ?_, Or.inl ⟨text, hsegments, rfl⟩⟩
    rw [hsegments]
    exact List.mem_cons_of_mem _ hmem
  · rename_i hsegments
    exact ⟨_, _, _, _, rfl, hpushes _ fun _ hmem => hmem, Or.inr ⟨rfl, hsegments, rfl⟩⟩

/-! ## The whole -/

/-- The routes visited are those listed, or else all of the document's in the order of their
text. -/
structure VisitsRoutes (doc : Document) (routes visited : List String) : Prop where
  listed : routes ≠ [] → visited = routes
  all : routes = [] → visited.Pairwise (· < ·) ∧
    ∀ route, route ∈ visited ↔ doc.paths.contains route = true

/-- On every visited route that the document has, each operation has a path parameter for each
placeholder. -/
def BindsAll (doc : Document) (routes : List String) : Prop :=
  ∀ route ∈ routeOrder doc routes, ∀ item, doc.paths.get? route = some item →
    ∀ method op, item.operation? method = some op →
      ∀ placeholder ∈ Route.placeholders route, BindsPath doc item op placeholder

/-- The cause is the first unbound placeholder of the first operation visited that has one. -/
def FirstOffender (doc : Document) (routes : List String) (cause : UnboundPlaceholder) : Prop :=
  ∃ visit, FirstLacking (Bound doc) (visits doc routes) visit ∧ FirstUnbound doc visit cause

/-- Every operation on the visited routes has its endpoint, in order, and the statements of its
path have a parameter for each placeholder. -/
structure Complete (doc : Document) (routes : List String) (extraction : Extraction) : Prop where
  order : extraction.endpoints.map (fun endpoint => (endpoint.route, endpoint.method)) =
    (routeOrder doc routes).flatMap fun route => (methodsOn doc route).map fun m => (route, m)
  paths : ∀ endpoint ∈ extraction.endpoints, ∀ graph,
    let idents := (paramIdents endpoint).take endpoint.pathParams.length
    BuildsPath graph (endpoint.pathParams.zip idents) (Route.segments endpoint.route)
      (pathStatements graph endpoint idents)

/-- The order in which routes are visited keeps what is listed, and sorts what is not. -/
theorem routeOrder_visits (doc : Document) (routes : List String) :
    VisitsRoutes doc routes (routeOrder doc routes) where
  listed := by
    intro h
    rw [routeOrder, if_neg (by simpa using h)]
  all := by
    rintro rfl
    exact ⟨doc.paths.keys_pairwise, fun route => Table.contains_iff_mem_keys.symm⟩

/-- Everything is bound if each visit is: the visits are the operations on the routes. -/
theorem bindsAll_iff {doc : Document} {routes : List String} :
    BindsAll doc routes ↔ ∀ visit ∈ visits doc routes, Bound doc visit := by
  constructor
  · rintro h ⟨route, item, method, op⟩ hvisit placeholder hmem
    obtain ⟨hroute, hget, hop⟩ := mem_visits.1 hvisit
    exact h route hroute item hget method op hop placeholder hmem
  · intro h route hroute item hget method op hop
    exact h (route, item, method, op) (mem_visits.2 ⟨hroute, hget, hop⟩)

/-- A path parameter has an identifier among those of the endpoint, in its place. -/
theorem exists_pathParam_ident {endpoint : Endpoint} {field : Field}
    (h : field ∈ endpoint.pathParams) :
    ∃ entry ∈ endpoint.pathParams.zip ((paramIdents endpoint).take endpoint.pathParams.length),
      entry.1 = field := by
  have hlen : endpoint.pathParams.length ≤
      ((paramIdents endpoint).take endpoint.pathParams.length).length := by
    rw [List.length_take, length_paramIdents, Endpoint.params, List.length_append]
    omega
  rw [← List.map_fst_zip hlen] at h
  exact List.mem_map.1 h

/-- Endpoints that serve the visits are complete: the order is that of the visits, and each of them
has its placeholders bound. -/
theorem complete_of_serves {doc : Document} {routes : List String} {extraction : Extraction}
    (h : List.Forall₂ Serves (visits doc routes) extraction.endpoints) :
    extraction.Complete doc routes where
  order := by
    rw [map_of_serves h, map_visits]
  paths := by
    intro endpoint hendpoint graph
    obtain ⟨visit, -, hserves⟩ := exists_of_forall₂_mem h hendpoint
    refine pathStatements_buildsPath fun name hname => ?_
    obtain ⟨field, hfield, rfl⟩ := hserves.params name hname
    obtain ⟨entry, hentry, rfl⟩ := exists_pathParam_ident hfield
    exact ⟨entry, hentry, rfl⟩

end Extraction

open Extraction in
/-- **Extraction is complete, in order, and fails exactly on unbound placeholders,** naming the
first one met. -/
theorem Document.extract_complete (doc : Document) (routes : List String) (graph : Graph) :
    VisitsRoutes doc routes (routeOrder doc routes) ∧
    ((∃ extraction, doc.extract routes graph = .ok extraction) ↔ BindsAll doc routes) ∧
    (∀ cause, doc.extract routes graph = .error cause ↔ FirstOffender doc routes cause) ∧
    ∀ extraction, doc.extract routes graph = .ok extraction → extraction.Complete doc routes := by
  have hspec := endpointsOf_spec doc (visits doc routes) (.ofList graph.names)
  refine ⟨routeOrder_visits doc routes, ?_⟩
  rw [bindsAll_iff]
  unfold Document.extract
  cases hrun : endpointsOf doc (visits doc routes) (.ofList graph.names) with
  | error cause =>
    rw [hrun] at hspec
    obtain ⟨visit, hlacking, hunbound⟩ := hspec
    refine ⟨⟨fun h => ?_, fun h => ?_⟩, fun other => ⟨fun h => ?_, fun h => ?_⟩, fun _ h => ?_⟩
    · obtain ⟨extraction, h⟩ := h
      cases h
    · obtain ⟨hvisit, hlacks⟩ := hlacking.mem
      exact absurd (h visit hvisit) hlacks
    · cases h
      exact ⟨visit, hlacking, hunbound⟩
    · obtain ⟨first, hfirst, hother⟩ := h
      -- the offender is determined: the first visit that lacks one, and in it the first that is
      -- lacking
      obtain rfl := hlacking.unique hfirst
      rw [hunbound.unique hother]
      rfl
    · cases h
  | ok built =>
    rw [hrun] at hspec
    obtain ⟨hbound, hserves⟩ := hspec
    refine ⟨⟨fun _ => hbound, fun _ => ⟨_, rfl⟩⟩, fun other => ⟨fun h => ?_, fun h => ?_⟩,
      fun extraction h => ?_⟩
    · cases h
    · obtain ⟨visit, hlacking, -⟩ := h
      obtain ⟨hvisit, hlacks⟩ := hlacking.mem
      exact absurd (hbound visit hvisit) hlacks
    · cases h
      exact complete_of_serves hserves

/-! ## A document with a shared parameter -/

/-- Orders can be read and cancelled by an identifier that the route declares by reference. -/
def ordersDocument : Document where
  paths := .ofList [("/orders/\x7bid\x7d", {
    get := some { id := some "read" }
    delete := some { id := some "cancel" }
    parameters := some [{ reference := some "#/components/parameters/OrderId" }] })]
  components := some { parameters := some (.ofList [
    ("OrderId", { name := "id", location := "path", required := true })]) }

/-- The document is extracted, and its parameter by reference takes the place of the placeholder. -/
theorem Document.extract_complete_orders :
    ∃ extraction, ordersDocument.extract [] .empty = .ok extraction ∧
      extraction.Complete ordersDocument [] := by
  have hok : (ordersDocument.extract [] .empty).isOk = true := by decide +kernel
  cases h : ordersDocument.extract [] .empty with
  | error cause =>
    rw [h] at hok
    cases hok
  | ok extraction =>
    obtain ⟨-, -, -, hcomplete⟩ := Document.extract_complete ordersDocument [] .empty
    exact ⟨extraction, rfl, hcomplete extraction h⟩

end ClientForge
