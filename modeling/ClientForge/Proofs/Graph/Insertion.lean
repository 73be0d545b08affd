/-
  What a graph gives for a name after models are added to it.

  There are two ways in which models get into a graph, and they differ in what happens to a name that
  is there already.

  * **First definitions stay.**  The models built of the components are added so, one after the other
    and with all that was made up on the way.  A row added like this is searched from the front, after
    the graph it is added to (`get?_foldl_insertNew`).
  * **Later definitions replace earlier ones.**  What the operations bring is added so.  The order
    would matter then, but the models of such a row have different names: in that case all of them are
    there, and the graph gives what it gave under any other name (`get?_insertAll`).  If none of them
    takes a name of the graph nothing is lost, and the two ways come to the same
    (`get?_insertAll_eq_some_iff`).

  The statements are equations for `get?` at an arbitrary name, so that what follows from them needs
  no case for each way of adding.
-/
import Mathlib.Data.List.Nodup
import ClientForge.Proofs.Graph.Lookup

namespace ClientForge.Graph

/-- The empty graph has no model. -/
@[simp] theorem get?_empty (name : String) : Graph.empty.get? name = none := Table.get?_empty name

/-- A model that shares its name with no other of the row is the one found under it. -/
theorem find?_of_unique {models : List Model} {model : Model} (hmem : model ∈ models)
    (hunique : ∀ other ∈ models, other.name = model.name → other = model) :
    models.find? (fun other => decide (other.name = model.name)) = some model := by
  cases hfind : models.find? fun other => decide (other.name = model.name) with
  | none =>
    have hne := List.find?_eq_none.1 hfind model hmem
    exact absurd (decide_eq_true rfl) hne
  | some other =>
    have hname := List.find?_some hfind
    rw [hunique other (List.mem_of_find?_eq_some hfind) (of_decide_eq_true hname)]

/-! ## First definitions stay -/

/-- A model that is added is found under its name, unless one was there. -/
theorem get?_insertNew (graph : Graph) (model : Model) (name : String) :
    (graph.insertNew model).get? name =
      (graph.get? name).or (if model.name = name then some model else none) := by
  unfold insertNew
  -- whether the name is taken decides between leaving the graph as it is and a plain insertion
  by_cases hmem : graph.models.contains model.name = true
  · rw [if_pos hmem]
    by_cases hname : model.name = name
    · obtain ⟨held, hheld⟩ := contains_iff.1 hmem
      rw [← hname, hheld]
      rfl
    · rw [if_neg hname, Option.or_none]
  · rw [if_neg hmem, get?_insert]
    by_cases hname : model.name = name
    · have hnone : graph.get? model.name = none := by
        rw [← Option.not_isSome_iff_eq_none]
        exact hmem
      rw [if_pos hname, if_pos hname.symm, ← hname, hnone]
      rfl
    · rw [if_neg hname, if_neg (Ne.symm hname), Option.or_none]

/-- **A row of models is searched from the front,** after the graph they are added to. -/
theorem get?_foldl_insertNew (models : List Model) (graph : Graph) (name : String) :
    (models.foldl insertNew graph).get? name =
      (graph.get? name).or (models.find? fun model => decide (model.name = name)) := by
  induction models generalizing graph with
  | nil => rw [List.foldl_nil, List.find?_nil, Option.or_none]
  | cons model rest ih =>
    rw [List.foldl_cons, ih, get?_insertNew, Option.or_assoc, List.find?_cons]
    by_cases hname : model.name = name
    · simp [hname]
    · simp [hname]

/-! ## Later definitions replace earlier ones -/

/-- **Models of different names are all there,** and under any other name the graph is what it
was. -/
theorem get?_insertAll {models : List Model} (hnodup : (models.map Model.name).Nodup)
    (graph : Graph) (name : String) :
    (graph.insertAll models).get? name =
      (models.find? fun model => decide (model.name = name)).or (graph.get? name) := by
  unfold insertAll
  induction models generalizing graph with
  | nil => rw [List.foldl_nil, List.find?_nil, Option.none_or]
  | cons model rest ih =>
    obtain ⟨hfresh, hrest⟩ := List.nodup_cons.1 hnodup
    rw [List.foldl_cons, ih hrest, get?_insert, List.find?_cons]
    by_cases hname : name = model.name
    · -- no later model of the row has the name, so the one just added is still there
      have hnone : rest.find? (fun other => decide (other.name = name)) = none := by
        apply List.find?_eq_none.2
        intro other hmem heq
        apply hfresh
        rw [← hname, ← of_decide_eq_true heq]
        exact List.mem_map_of_mem hmem
      rw [hnone, if_pos hname]
      simp [hname]
    · simp [hname, Ne.symm hname]

/-- **Nothing is lost:** if the models have names of their own, the graph gives for a name what it
gave before, or else the added model of that name. -/
theorem get?_insertAll_eq_some_iff {graph : Graph} {models : List Model}
    (hnodup : (models.map Model.name).Nodup) (hfresh : ∀ model ∈ models, model.name ∉ graph.names)
    {name : String} {model : Model} :
    (graph.insertAll models).get? name = some model ↔
      graph.get? name = some model ∨ (model ∈ models ∧ model.name = name) := by
  rw [get?_insertAll hnodup, Option.or_eq_some_iff]
  constructor
  · rintro (hfind | ⟨-, hget⟩)
    · have hmem := List.mem_of_find?_eq_some hfind
      have hname := List.find?_some hfind
      exact Or.inr ⟨hmem, of_decide_eq_true hname⟩
    · exact Or.inl hget
  · rintro (hget | ⟨hmem, hname⟩)
    · refine Or.inr ⟨List.find?_eq_none.2 fun other hother heq => ?_, hget⟩
      apply hfresh other hother
      rw [of_decide_eq_true heq]
      exact mem_names.2 ⟨model, hget⟩
    · left
      subst hname
      exact find?_of_unique hmem fun other hother =>
        List.inj_on_of_nodup_map hnodup hother hmem

end ClientForge.Graph
