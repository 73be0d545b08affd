/-
  Routes put behind others leave what comes before them alone.

  A run visits the operations of its routes one after the other, and an operation may give two things
  to those that come later: the models made for it, and the names taken by then.  A run never looks
  AHEAD.  So a run over two rows of operations is the run over the first, and then the run over the
  second from the names that the first leaves (`Extraction.endpointsOf_append`), and it fails where
  the first of the two fails that does.

  To say this of runs over a document, the names have to be those of a graph again: what is taken
  after a step is what a graph names that has the hoisted models in it (`Grows.eq_ofList_names`).  So
  the second run is one of its own, over the graph with the first run's models inserted
  (`Document.extract_append`).  What follows is that listing more routes is conservative
  (`Document.extract_conservative`): the endpoints and models of the shorter run come first, in the
  same order and under the same names, and if the shorter run fails, the longer one fails with the
  same cause.

  The empty list of routes is left out, because it is not the shortest list: it stands for ALL routes
  of the document.  In the document at the end the two operations wish for the same name, so the one
  that comes second gets another, and its place in the list does matter for itself.
-/
import Mathlib.Data.List.Perm.Basic
import ClientForge.Proofs.Endpoints.Extraction
import ClientForge.Proofs.Hoisting.Endpoints

namespace ClientForge

/-! ## Names taken -/

/-- A set of names is determined by its members. -/
theorem Names.ext_mem {names other : Names} (h : ∀ name, name ∈ names ↔ name ∈ other) :
    names = other := by
  have hnodup : ∀ set : Names, set.toList.Nodup := fun set =>
    set.sorted.imp fun hlt => Std.ne_of_lt hlt
  have hperm : names.toList.Perm other.toList :=
    (List.perm_ext_iff_of_nodup (hnodup names) (hnodup other)).2 h
  have heq : names.toList = other.toList := by
    refine hperm.eq_of_pairwise ?_ names.sorted other.sorted
    intro a b _ _ hab hba
    exact absurd (String.lt_trans hab hba) (String.lt_irrefl a)
  cases names
  cases other
  cases heq
  rfl

/-- A graph with models inserted names these besides what it named. -/
theorem Graph.mem_names_insertAll {graph : Graph} {models : List Model} {name : String} :
    name ∈ (graph.insertAll models).names ↔
      name ∈ graph.names ∨ name ∈ models.map Model.name := by
  unfold Graph.insertAll
  induction models generalizing graph with
  | nil => simp
  | cons model rest ih =>
    have hinsert : name ∈ (graph.insert model).names ↔ name = model.name ∨ name ∈ graph.names := by
      simp only [Graph.mem_names, Graph.get?_insert]
      by_cases hname : name = model.name <;> simp [hname]
    rw [List.foldl_cons, ih, hinsert, List.map_cons, List.mem_cons]
    exact or_assoc.trans or_left_comm

/-- What is taken after a step is what a graph names that has the models hoisted in it. -/
theorem Grows.eq_ofList_names {graph : Graph} {hoisted : List Model} {after : Names}
    (h : Grows (.ofList graph.names) hoisted after) :
    after = .ofList (graph.insertAll hoisted).names := by
  refine Names.ext_mem fun name => ?_
  rw [h.mem_after, Names.mem_ofList, Names.mem_ofList, Graph.mem_names_insertAll]

namespace Extraction

/-! ## Rows of operations -/

/-- What two rows of operations give, one after the other. -/
def andThen (first second : Built (List Endpoint)) : Built (List Endpoint) :=
  ⟨first.result ++ second.result, first.hoisted ++ second.hoisted, second.names⟩

/-- **A row of operations is visited up to any place, and then from there on** with the names taken
by then. -/
theorem endpointsOf_append (doc : Document) (visits more : List Visit) (names : Names) :
    endpointsOf doc (visits ++ more) names =
      (endpointsOf doc visits names).bind fun first =>
        (endpointsOf doc more first.names).map (andThen first) := by
  -- The names claimed so far are what the second run starts from, so they are generalized.
  induction visits generalizing names with
  | nil =>
    rw [List.nil_append]
    cases hmore : endpointsOf doc more names with
    | error cause => simp [endpointsOf, Except.bind, Except.map, hmore]
    | ok second => simp [endpointsOf, Except.bind, Except.map, andThen, hmore]
  | cons visit rest ih =>
    obtain ⟨route, item, method, op⟩ := visit
    rw [List.cons_append, endpointsOf, endpointsOf]
    -- An error of the first run ends both sides before the second is looked at.
    cases endpointOf doc route item method op names with
    | error cause => rfl
    | ok endpoint =>
      dsimp only
      rw [ih]
      cases endpointsOf doc rest endpoint.names with
      | error cause => rfl
      | ok others =>
        cases hmore : endpointsOf doc more others.names with
        | error cause => simp [Except.bind, Except.map, hmore]
        | ok second => simp [Except.bind, Except.map, andThen, hmore]

/-- Routes that are listed are visited in the order of the list. -/
theorem visits_append {doc : Document} {routes more : List String} (hroutes : routes ≠ [])
    (hmore : more ≠ []) : visits doc (routes ++ more) = visits doc routes ++ visits doc more := by
  have hlisted : ∀ {routes : List String}, routes ≠ [] → routeOrder doc routes = routes :=
    (Extraction.routeOrder_visits doc _).listed
  unfold visits
  rw [hlisted hroutes, hlisted hmore, hlisted (List.append_ne_nil_of_left_ne_nil hroutes more),
    List.flatMap_append]

end Extraction

/-! ## Runs over a document -/

/-- What two runs give, one after the other. -/
def Extraction.append (first second : Extraction) : Extraction :=
  ⟨first.endpoints ++ second.endpoints, first.synthesized ++ second.synthesized⟩

/-- **A run over two lists of routes is a run over each of them,** the second one over the graph
with the models that the first one made. -/
theorem Document.extract_append (doc : Document) (graph : Graph) {routes more : List String}
    (hroutes : routes ≠ []) (hmore : more ≠ []) :
    doc.extract (routes ++ more) graph =
      (doc.extract routes graph).bind fun first =>
        (doc.extract more (graph.insertAll first.synthesized)).map first.append := by
  unfold Document.extract
  rw [Extraction.visits_append hroutes hmore, Extraction.endpointsOf_append]
  cases hfirst : Extraction.endpointsOf doc (Extraction.visits doc routes)
      (.ofList graph.names) with
  | error cause => rfl
  | ok first =>
    -- the names left by the first run are those of the graph that the second one is given
    have hnames := (Extraction.endpointsOf_hoists hfirst).grows.eq_ofList_names
    simp only [Except.map, Except.bind, ← hnames]
    cases Extraction.endpointsOf doc (Extraction.visits doc more) first.names with
    | error cause => rfl
    | ok second => rfl

/-- **Routes put behind others change nothing before them:** a run over more routes begins with the
endpoints and the models of the run over the first ones, and fails as that one does. -/
theorem Document.extract_conservative (doc : Document) (graph : Graph) {routes : List String}
    (hroutes : routes ≠ []) (more : List String) :
    (∀ longer, doc.extract (routes ++ more) graph = .ok longer →
      ∃ shorter, doc.extract routes graph = .ok shorter ∧
        shorter.endpoints <+: longer.endpoints ∧ shorter.synthesized <+: longer.synthesized) ∧
    ∀ cause, doc.extract routes graph = .error cause →
      doc.extract (routes ++ more) graph = .error cause := by
  -- An empty list of routes stands for all paths, so appending nothing must be set apart: only
  -- otherwise is the longer run the shorter one continued.
  by_cases hmore : more = []
  · subst hmore
    rw [List.append_nil]
    exact ⟨fun longer h => ⟨longer, h, List.prefix_refl _, List.prefix_refl _⟩, fun _ h => h⟩
  · rw [Document.extract_append doc graph hroutes hmore]
    cases doc.extract routes graph with
    | error cause => exact ⟨nofun, fun _ h => h⟩
    | ok shorter =>
      refine ⟨fun longer h => ⟨shorter, rfl, ?_⟩, nofun⟩
      -- The second run starts from the graph with the first run's models in it; all that is used of
      -- it is that it appends.
      cases hrest : doc.extract more (graph.insertAll shorter.synthesized) with
      | error cause =>
        simp only [Except.bind, Except.map, hrest] at h
        cases h
      | ok rest =>
        simp only [Except.bind, Except.map, hrest] at h
        cases h
        exact ⟨List.prefix_append _ _, List.prefix_append _ _⟩

/-! ## Two operations of one name -/

/-- Two routes whose operations have the same identifier, so that both wish for the same name for
the model of what they give. -/
def twinsDocument : Document where
  paths := .ofList [("/a", { get := some twin }), ("/b", { get := some twin })]
where
  /-- An operation that gives an object with a text. -/
  twin : Operation := {
    id := some "read"
    responses := .ofList [("200",
      { content := some (.ofList [("application/json", { schema := some labelSchema })]) })] }

/-- The statement at two operations that wish for one name. -/
theorem Document.extract_conservative_twins :
    ["/b"] ≠ [] ∧ ∃ longer shorter,
      twinsDocument.extract (["/b"] ++ ["/a"]) .empty = .ok longer ∧
      twinsDocument.extract ["/b"] .empty = .ok shorter ∧
      shorter.endpoints <+: longer.endpoints ∧ shorter.synthesized <+: longer.synthesized := by
  have hroutes : ["/b"] ≠ [] := by decide
  have hok : (twinsDocument.extract (["/b"] ++ ["/a"]) .empty).isOk = true := by decide +kernel
  obtain ⟨longer, hlonger⟩ := exists_of_isOk hok
  obtain ⟨shorter, hshorter, hprefix⟩ :=
    (Document.extract_conservative twinsDocument .empty hroutes ["/a"]).1 longer hlonger
  exact ⟨hroutes, longer, shorter, hlonger, hshorter, hprefix⟩

end ClientForge
