/-
  Which placeholders an operation binds.

  A placeholder in a route is bound by a parameter that goes into the path and has its name, on the
  route or on the operation, once references are followed (`Extraction.BindsPath`).  That is a
  statement about the document.  What a run looks at instead are the fields it has made of the
  parameters, and it looks for the FIRST placeholder that has none.  Between the two stand three
  facts:

  1. the fields made of parameters keep names and places, in their order (`map_paramFields`), so
     looking for a placeholder among the path parameters of an endpoint is asking whether it is
     bound (`any_pathParams_iff`);
  2. the first element of a row that lacks a property is determined by the row and the property
     (`FirstLacking`), however it is searched for; so an error that names it can be stated without
     the search;
  3. one operation gives an endpoint where all its placeholders are bound, and otherwise the first
     that is not as the cause (`endpointOf_spec`).  Exactly one of the two is the case, since the
     cause names a placeholder that is not bound.

  What an endpoint has to do with its operation is `Serves`: the route and the method are those of
  the operation, and every placeholder of the route is the key of a path parameter.
-/
import Mathlib.Data.List.Forall2
import ClientForge.Endpoint.Extraction

namespace ClientForge

/-! ## Rows -/

/-- `FirstLacking p xs x` — the first element of the row that is not `p`. -/
def FirstLacking {α : Type} (p : α → Prop) (xs : List α) (x : α) : Prop :=
  ∃ before after, xs = before ++ x :: after ∧ (∀ y ∈ before, p y) ∧ ¬ p x

section Row

variable {α : Type} {p : α → Prop} {xs : List α} {x y : α}

/-- The empty row has no element that lacks anything. -/
theorem not_firstLacking_nil : ¬ FirstLacking p [] x := by
  rintro ⟨before, after, heq, -⟩
  cases before <;> cases heq

/-- The first element that lacks the property is at the head of the row, or it is the first of the
rest and the head has the property. -/
theorem firstLacking_cons :
    FirstLacking p (y :: xs) x ↔ (¬ p y ∧ x = y) ∨ (p y ∧ FirstLacking p xs x) := by
  constructor
  · rintro ⟨before, after, heq, hbefore, hx⟩
    cases before with
    | nil =>
      cases heq
      exact Or.inl ⟨hx, rfl⟩
    | cons first before =>
      cases heq
      refine Or.inr ⟨hbefore _ List.mem_cons_self, before, after, rfl, fun z hz => ?_, hx⟩
      exact hbefore z (List.mem_cons_of_mem _ hz)
  · -- conversely the head is put in front of what has the property
    rintro (⟨hy, rfl⟩ | ⟨hy, before, after, rfl, hbefore, hx⟩)
    · exact ⟨[], xs, rfl, fun z hz => absurd hz List.not_mem_nil, hy⟩
    · refine ⟨y :: before, after, rfl, fun z hz => ?_, hx⟩
      rcases List.mem_cons.1 hz with rfl | hz
      · exact hy
      · exact hbefore z hz

/-- There is only one first element that lacks the property. -/
theorem FirstLacking.unique (hx : FirstLacking p xs x) (hy : FirstLacking p xs y) : x = y := by
  induction xs with
  | nil => exact absurd hx not_firstLacking_nil
  | cons z rest ih =>
    rcases firstLacking_cons.1 hx with ⟨hz, rfl⟩ | ⟨hz, hx⟩
    · rcases firstLacking_cons.1 hy with ⟨-, rfl⟩ | ⟨hz', -⟩
      · rfl
      · exact absurd hz' hz
    · rcases firstLacking_cons.1 hy with ⟨hz', -⟩ | ⟨-, hy⟩
      · exact absurd hz hz'
      · exact ih hx hy

/-- It stands in the row, and it lacks the property. -/
theorem FirstLacking.mem (h : FirstLacking p xs x) : x ∈ xs ∧ ¬ p x := by
  obtain ⟨before, after, rfl, -, hx⟩ := h
  exact ⟨List.mem_append_right _ List.mem_cons_self, hx⟩

/-- A search for what fails a test finds the first element that lacks it. -/
theorem find?_eq_some_iff_firstLacking {test : α → Bool} :
    xs.find? (fun x => !test x) = some x ↔ FirstLacking (fun x => test x = true) xs x := by
  induction xs with
  | nil =>
    constructor
    · intro h
      cases h
    · intro h
      exact absurd h not_firstLacking_nil
  | cons y rest ih =>
    rw [firstLacking_cons, List.find?_cons, ← ih]
    cases htest : test y with
    | true => simp
    | false => simp [eq_comm]

/-- What stands in the second of two related rows is related to something in the first. -/
theorem exists_of_forall₂_mem {β : Type} {related : α → β → Prop} {ys : List β}
    (h : List.Forall₂ related xs ys) {y : β} (hy : y ∈ ys) : ∃ x ∈ xs, related x y := by
  induction h with
  | nil => cases hy
  | cons hfirst hrest ih =>
    rcases List.mem_cons.1 hy with rfl | hy
    · exact ⟨_, List.mem_cons_self, hfirst⟩
    · obtain ⟨x, hx, hrelated⟩ := ih hy
      exact ⟨x, List.mem_cons_of_mem _ hx, hrelated⟩

end Row

/-! ## Parameters of an operation -/

namespace Extraction

variable {doc : Document} {item : PathItem} {op : Operation} {placeholder : String}

/-- A parameter of the route or of the operation goes into the path under that name, once its
reference is followed. -/
def BindsPath (doc : Document) (item : PathItem) (op : Operation) (placeholder : String) : Prop :=
  ∃ raw ∈ item.parameters.getD [] ++ op.parameters.getD [], ∃ param,
    doc.resolve? raw = some param ∧ param.location = "path" ∧ param.name = placeholder

/-- A parameter goes into the path if it says so. -/
theorem locationOf?_eq_path_iff {param : Parameter} :
    locationOf? param = some .path ↔ param.location = "path" := by
  unfold locationOf?
  constructor
  · intro h
    split at h
    · assumption
    · cases h
    · cases h
  · intro h
    rw [h]
    rfl

/-- A placeholder is bound by one of the parameters that an operation has in the end. -/
theorem bindsPath_iff : BindsPath doc item op placeholder ↔
    ∃ param, (param, Location.path) ∈ parametersOf doc item op ∧ param.name = placeholder := by
  constructor
  · rintro ⟨raw, hraw, param, hresolve, hlocation, hname⟩
    refine ⟨param, List.mem_filterMap.2 ⟨raw, hraw, ?_⟩, hname⟩
    simp [hresolve, locationOf?_eq_path_iff.2 hlocation]
  · rintro ⟨param, hmem, hname⟩
    obtain ⟨raw, hraw, hentry⟩ := List.mem_filterMap.1 hmem
    obtain ⟨found, hresolve, hentry⟩ := Option.bind_eq_some_iff.1 hentry
    obtain ⟨location, hlocation, heq⟩ := Option.bind_eq_some_iff.1 hentry
    cases heq
    exact ⟨raw, hraw, param, hresolve, locationOf?_eq_path_iff.1 hlocation, hname⟩

/-- The fields of parameters keep the names and the places of these, in their order. -/
theorem map_paramFields (endpoint : String) (params : List (Parameter × Location)) (names : Names) :
    (paramFields endpoint params names).result.map (fun field => (field.key, field.location)) =
      params.map fun entry => (entry.1.name, entry.2) := by
  induction params generalizing names with
  | nil => rfl
  | cons entry rest ih =>
    rw [paramFields, List.map_cons, List.map_cons, ih]
    rfl

/-- **A placeholder has a path parameter exactly if it is bound.** -/
theorem any_pathParams_iff {endpoint : String} {names : Names} :
    ((paramFields endpoint (parametersOf doc item op) names).result.filter
        fun field => field.location == .path).any (fun field => field.key == placeholder) = true ↔
      BindsPath doc item op placeholder := by
  have hmem : (placeholder, Location.path) ∈
      (paramFields endpoint (parametersOf doc item op) names).result.map
        (fun field => (field.key, field.location)) ↔ BindsPath doc item op placeholder := by
    rw [map_paramFields, bindsPath_iff, List.mem_map]
    constructor
    · rintro ⟨⟨param, location⟩, hentry, heq⟩
      cases heq
      exact ⟨param, hentry, rfl⟩
    · rintro ⟨param, hentry, rfl⟩
      exact ⟨(param, .path), hentry, rfl⟩
  rw [← hmem, List.mem_map, List.any_eq_true]
  constructor
  · rintro ⟨field, hfield, hkey⟩
    obtain ⟨hfield, hlocation⟩ := List.mem_filter.1 hfield
    exact ⟨field, hfield, Prod.ext (eq_of_beq hkey) (eq_of_beq hlocation)⟩
  · rintro ⟨field, hfield, heq⟩
    obtain ⟨hkey, hlocation⟩ := Prod.mk.inj heq
    exact ⟨field, List.mem_filter.2 ⟨hfield, beq_iff_eq.2 hlocation⟩, beq_iff_eq.2 hkey⟩

/-! ## Operations where they stand -/

/-- An operation where it stands: its route, what is said of the route, and its method. -/
abbrev Visit := String × PathItem × Method × Operation

/-- The operations on a route are those under its methods. -/
theorem mem_operations {method : Method} :
    (method, op) ∈ item.operations ↔ item.operation? method = some op := by
  simp only [PathItem.operations, List.mem_filterMap, Option.map_eq_some_iff, Prod.mk.injEq]
  constructor
  · rintro ⟨found, -, operation, hoperation, rfl, rfl⟩
    exact hoperation
  · intro h
    exact ⟨method, method.mem_all, op, h, rfl, rfl⟩

/-- The operations visited are those on the routes of the order that the document has. -/
theorem mem_visits {routes : List String} {route : String} {method : Method} :
    (route, item, method, op) ∈ visits doc routes ↔
      route ∈ routeOrder doc routes ∧ doc.paths.get? route = some item ∧
        item.operation? method = some op := by
  simp only [visits, List.mem_flatMap]
  constructor
  · rintro ⟨visited, hvisited, hmem⟩
    split at hmem
    · rename_i found hget
      obtain ⟨operation, hoperation, heq⟩ := List.mem_map.1 hmem
      cases heq
      exact ⟨hvisited, hget, mem_operations.1 hoperation⟩
    · cases hmem
  · rintro ⟨hroute, hget, hop⟩
    refine ⟨route, hroute, ?_⟩
    rw [hget]
    exact List.mem_map.2 ⟨(method, op), mem_operations.2 hop, rfl⟩

/-! ## One endpoint -/

/-- Every placeholder of the route is bound. -/
def Bound (doc : Document) (visit : Visit) : Prop :=
  ∀ placeholder ∈ Route.placeholders visit.1, BindsPath doc visit.2.1 visit.2.2.2 placeholder

/-- The cause names the route and the first of its placeholders that is not bound. -/
def FirstUnbound (doc : Document) (visit : Visit) (cause : UnboundPlaceholder) : Prop :=
  cause.route = visit.1 ∧
    FirstLacking (BindsPath doc visit.2.1 visit.2.2.2) (Route.placeholders visit.1)
      cause.placeholder

/-- The endpoint is that of the operation, and each placeholder of its route is the key of one of
its path parameters. -/
structure Serves (visit : Visit) (endpoint : Endpoint) : Prop where
  route : endpoint.route = visit.1
  method : endpoint.method = visit.2.2.1
  params : ∀ placeholder ∈ Route.placeholders endpoint.route, ∃ field ∈ endpoint.pathParams,
    field.key = placeholder

/-- An operation with an unbound placeholder is not bound. -/
theorem FirstUnbound.not_bound {visit : Visit} {cause : UnboundPlaceholder}
    (h : FirstUnbound doc visit cause) : ¬ Bound doc visit := by
  obtain ⟨hmem, hlacks⟩ := h.2.mem
  exact fun hbound => hlacks (hbound _ hmem)

/-- An operation has one cause to fail at most. -/
theorem FirstUnbound.unique {visit : Visit} {cause other : UnboundPlaceholder}
    (h : FirstUnbound doc visit cause) (h' : FirstUnbound doc visit other) : cause = other := by
  obtain ⟨route, placeholder⟩ := cause
  obtain ⟨route', placeholder'⟩ := other
  obtain rfl : route = route' := h.1.trans h'.1.symm
  obtain rfl : placeholder = placeholder' := h.2.unique h'.2
  rfl

/-- **What becomes of one operation:** an endpoint where all placeholders are bound, and otherwise
the first one that is not. -/
theorem endpointOf_spec (doc : Document) (route : String) (item : PathItem) (method : Method)
    (op : Operation) (names : Names) :
    match endpointOf doc route item method op names with
    | .error cause => FirstUnbound doc (route, item, method, op) cause
    | .ok built => Bound doc (route, item, method, op) ∧
        Serves (route, item, method, op) built.result := by
  unfold endpointOf
  dsimp only
  cases hunbound : Endpoint.unbound? route
      ((paramFields (nameOf route method op) (parametersOf doc item op) names).result.filter
        fun field => field.location == .path) with
  | some placeholder =>
    unfold Endpoint.unbound? at hunbound
    rw [find?_eq_some_iff_firstLacking] at hunbound
    simp only [any_pathParams_iff] at hunbound
    exact ⟨rfl, hunbound⟩
  | none =>
    have hany := List.find?_eq_none.1 hunbound
    simp only [Bool.not_eq_true, Bool.not_eq_false'] at hany
    refine ⟨fun placeholder hmem => any_pathParams_iff.1 (hany placeholder hmem), rfl, rfl, ?_⟩
    intro placeholder hmem
    obtain ⟨field, hfield, hkey⟩ := List.any_eq_true.1 (hany placeholder hmem)
    exact ⟨field, hfield, eq_of_beq hkey⟩

/-! ## A run that ends well -/

/-- The first operation of a row has an endpoint, and the others start from the names it leaves. -/
theorem exists_of_endpointsOf_cons {visit : Visit} {rest : List Visit} {names : Names}
    {built : Built (List Endpoint)} (h : endpointsOf doc (visit :: rest) names = .ok built) :
    ∃ endpoint others,
      endpointOf doc visit.1 visit.2.1 visit.2.2.1 visit.2.2.2 names = .ok endpoint ∧
      endpointsOf doc rest endpoint.names = .ok others ∧
      built = ⟨endpoint.result :: others.result, endpoint.hoisted ++ others.hoisted,
        others.names⟩ := by
  obtain ⟨route, item, method, op⟩ := visit
  unfold endpointsOf at h
  cases hfirst : endpointOf doc route item method op names with
  | error cause =>
    rw [hfirst] at h
    cases h
  | ok endpoint => cases hrest : endpointsOf doc rest endpoint.names with
    | error cause =>
      simp only [hfirst, hrest] at h
      cases h
    | ok others =>
      simp only [hfirst, hrest] at h
      cases h
      exact ⟨endpoint, others, rfl, hrest, rfl⟩

end Extraction

/-- What is no error is a value. -/
theorem exists_of_isOk {ε α : Type} {result : Except ε α} (h : result.isOk = true) :
    ∃ value, result = .ok value := by
  cases result with
  | error cause => cases h
  | ok value => exact ⟨value, rfl⟩

/-- What an extraction holds was built from the operations visited, with the names of the graph
taken. -/
theorem Document.exists_built_of_extract {doc : Document} {routes : List String} {graph : Graph}
    {extraction : Extraction} (h : doc.extract routes graph = .ok extraction) :
    ∃ built, Extraction.endpointsOf doc (Extraction.visits doc routes) (.ofList graph.names) =
      .ok built ∧ extraction = ⟨built.result, built.hoisted⟩ := by
  unfold Document.extract at h
  cases hall : Extraction.endpointsOf doc (Extraction.visits doc routes) (.ofList graph.names) with
  | error cause =>
    rw [hall] at h
    cases h
  | ok built =>
    rw [hall] at h
    cases h
    exact ⟨built, rfl, rfl⟩

end ClientForge
