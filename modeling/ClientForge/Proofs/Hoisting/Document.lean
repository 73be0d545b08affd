/-
  The models of a document, none displaced.

  The components of a document are built one after the other, each under the name that its key gives,
  and what is made up on the way is put into the graph with them.  Where a name is met again the first
  definition stays, so a model could get lost in two ways: a made-up model takes the name of a
  component, or two made-up models have one name.

  Neither happens.  All names that the document gives are taken before the first model is built
  (`Document.namedSchemas`), and a made-up name is claimed from those that are free and is taken from
  then on.  So a made-up model has a name that is none of the document's and no other made-up model
  has (`Document.madeUp_builtModels`), and keeping the first definition of each name keeps all of
  them.

  Two components may still ask for one name.  Which of them is found then is a question of its own;
  here it is enough that each of them had a model built that says what it does
  (`Document.exists_describes`).
-/
import ClientForge.Model.OfDocument
import ClientForge.Proofs.Graph.Insertion
import ClientForge.Proofs.Hoisting.Building

namespace ClientForge

/-- The models made up on the way to the models of a row. -/
def madeUp (models : List Model) : List Model := models.filter Model.generated

/-- The model of a component is not made up, so what is made up in a row is what was hoisted out of
the first schema and what was made up in the rest. -/
theorem madeUp_cons_built (name : String) (schema : Schema) (names : Names)
    (rest : List Model) :
    let built := buildModel name false schema names
    madeUp (built.result :: built.hoisted ++ rest) = built.hoisted ++ madeUp rest := by
  intro built
  have hfirst : built.result.generated = false := (buildModel_name name false schema names).2
  have hhoisted : built.hoisted.filter Model.generated = built.hoisted :=
    List.filter_eq_self.2 (building_hoists.1 name false schema names).grows.generated
  unfold madeUp
  rw [List.cons_append, List.filter_cons_of_neg (by simp [hfirst]), List.filter_append, hhoisted]

/-- **Building a row of named schemas hoists soundly:** each has a model that says what it does. -/
theorem buildModels_hoists (names : Names) (named : List (String × Schema)) :
    ∃ after, Hoists names ⟨buildModels names named, madeUp (buildModels names named), after⟩
      fun graph models => ∀ entry ∈ named, ∃ model ∈ models,
        graph.Describes entry.1 false entry.2 model := by
  induction named generalizing names with
  | nil => exact ⟨names, Hoists.pure fun graph entry hmem => absurd hmem List.not_mem_nil⟩
  | cons entry rest ih =>
    obtain ⟨name, schema⟩ := entry
    obtain ⟨after, hrest⟩ := ih (buildModel name false schema names).names
    refine ⟨after, ?_⟩
    rw [buildModels, madeUp_cons_built]
    refine (building_hoists.1 name false schema names).append hrest fun graph h₁ h₂ => ?_
    intro entry hmem
    rcases List.mem_cons.1 hmem with rfl | hmem
    · exact ⟨_, List.mem_cons_self, h₁⟩
    · obtain ⟨model, hmodel, hdescribes⟩ := h₂ entry hmem
      exact ⟨model, List.mem_append_right _ hmodel, hdescribes⟩

/-- A model that is not made up has the name of one of the schemas. -/
theorem name_mem_of_not_generated {named : List (String × Schema)} {names : Names} {model : Model}
    (hmem : model ∈ buildModels names named) (h : model.generated = false) :
    model.name ∈ named.map Prod.fst := by
  induction named generalizing names with
  | nil => cases hmem
  | cons entry rest ih =>
    obtain ⟨name, schema⟩ := entry
    rw [buildModels] at hmem
    rcases List.mem_append.1 hmem with hmem | hmem
    · rcases List.mem_cons.1 hmem with rfl | hmem
      · rw [(buildModel_name name false schema names).1]
        exact List.mem_cons_self
      · have htrue := (building_hoists.1 name false schema names).grows.generated model hmem
        rw [h] at htrue
        cases htrue
    · exact List.mem_cons_of_mem _ (ih hmem)

/-- **A model that is not made up is that of one of the schemas,** in any graph that holds the
made-up models. -/
theorem describes_of_not_generated {named : List (String × Schema)} {names : Names} {model : Model}
    {graph : Graph} (hstores : graph.Stores (madeUp (buildModels names named)))
    (hmem : model ∈ buildModels names named) (h : model.generated = false) :
    ∃ schema, (model.name, schema) ∈ named ∧ graph.Describes model.name false schema model := by
  induction named generalizing names with
  | nil => cases hmem
  | cons entry rest ih =>
    obtain ⟨name, schema⟩ := entry
    rw [buildModels] at hmem
    rw [buildModels, madeUp_cons_built] at hstores
    rcases List.mem_append.1 hmem with hmem | hmem
    · have hhoists := building_hoists.1 name false schema names
      rcases List.mem_cons.1 hmem with rfl | hmem
      · have hdescribes := hhoists.result graph fun other hother =>
          hstores other (List.mem_append_left _ hother)
        rw [(buildModel_name name false schema names).1]
        exact ⟨schema, List.mem_cons_self, hdescribes⟩
      · have htrue := hhoists.grows.generated model hmem
        rw [h] at htrue
        cases htrue
    · obtain ⟨found, hfound, hdescribes⟩ :=
        ih (fun other hother => hstores other (List.mem_append_right _ hother)) hmem
      exact ⟨found, List.mem_cons_of_mem _ hfound, hdescribes⟩

namespace Document

/-- The models built of a document, in the order in which they are put into its graph. -/
def builtModels (doc : Document) : List Model :=
  buildModels (.ofList (doc.namedSchemas.map Prod.fst)) doc.namedSchemas

/-- Under a name the graph holds the first model that was built with it. -/
theorem get?_ofDocument (doc : Document) (name : String) :
    (Graph.ofDocument doc).get? name =
      doc.builtModels.find? fun model => decide (model.name = name) := by
  show (doc.builtModels.foldl Graph.insertNew .empty).get? name = _
  rw [Graph.get?_foldl_insertNew, Graph.get?_empty, Option.none_or]

/-- **A made-up model of a document:** its name is none that the document gives, no other made-up
model has it, and the graph holds the model under it. -/
theorem madeUp_builtModels (doc : Document) :
    ((madeUp doc.builtModels).map Model.name).Nodup ∧
    (∀ model ∈ madeUp doc.builtModels, model.name ∉ doc.namedSchemas.map Prod.fst) ∧
    (Graph.ofDocument doc).Stores (madeUp doc.builtModels) := by
  obtain ⟨after, hbuilt⟩ := buildModels_hoists (.ofList (doc.namedSchemas.map Prod.fst))
    doc.namedSchemas
  have hdistinct : ((madeUp doc.builtModels).map Model.name).Nodup := hbuilt.grows.distinct
  have hfresh : ∀ model ∈ madeUp doc.builtModels, model.name ∉ doc.namedSchemas.map Prod.fst := by
    intro model hmem hname
    exact hbuilt.grows.fresh model hmem (Names.mem_ofList.2 hname)
  refine ⟨hdistinct, hfresh, fun model hmem => ?_⟩
  rw [get?_ofDocument]
  apply Graph.find?_of_unique (List.mem_filter.1 hmem).1
  intro other hother hname
  -- another model of that name is not made up, and then its name is one of the document's
  cases hgenerated : other.generated with
  | false =>
    have hdoc := name_mem_of_not_generated hother hgenerated
    rw [hname] at hdoc
    exact absurd hdoc (hfresh model hmem)
  | true =>
    have hmade : other ∈ madeUp doc.builtModels := List.mem_filter.2 ⟨hother, hgenerated⟩
    exact List.inj_on_of_nodup_map hdistinct hmade hmem hname

/-- Each schema of a document has a model built that says what it does, in any graph that holds the
made-up models. -/
theorem exists_describes (doc : Document) {graph : Graph}
    (hstores : graph.Stores (madeUp doc.builtModels)) {name : String} {schema : Schema}
    (hmem : (name, schema) ∈ doc.namedSchemas) :
    ∃ model ∈ doc.builtModels, graph.Describes name false schema model := by
  obtain ⟨after, hbuilt⟩ := buildModels_hoists (.ofList (doc.namedSchemas.map Prod.fst))
    doc.namedSchemas
  exact hbuilt.result graph hstores (name, schema) hmem

end Document

end ClientForge
