/-
  How hoisting grows the names taken.

  Building threads one set of names through a schema.  Whatever happens inside, a step is seen from
  outside by three things: the names taken before, the models it hoisted, the names taken after.

  `Grows` says how these belong together: the models hoisted are made up, they have names of their
  own that were free before, and those are all that is taken afterwards besides what was taken before.
  Steps in a row keep it, because what the first has hoisted is taken when the second begins; so does
  a claim with the step that builds the model for it, because the name is taken before that step.  It
  does not matter in what order the models are listed, and it should not: the model under a claimed
  name is put behind what is hoisted on the way to it, although its name was taken first.

  `Hoists` adds what the result of a step stands for.  That is said of any graph that holds the models
  hoisted, so nothing about it depends on the names that were taken at the time.  The lemmas of the
  second section are the ways in which steps are put together — nothing hoisted, a result put to use,
  one step after the other, a model under a claimed name — and a proof about building names the one
  that fits instead of arguing about names again.
-/
import ClientForge.Model.Graph
import ClientForge.Model.OfSchema
import ClientForge.Proofs.Naming.Fresh

namespace ClientForge

/-! ## Growth -/

/-- The models hoisted by a step are made up, have names of their own that were free before, and
these are all that is taken on the way. -/
structure Grows (before : Names) (hoisted : List Model) (after : Names) : Prop where
  generated : ∀ model ∈ hoisted, model.generated = true
  distinct : (hoisted.map Model.name).Nodup
  fresh : ∀ model ∈ hoisted, model.name ∉ before
  mem_after : ∀ {name : String}, name ∈ after ↔ name ∈ before ∨ name ∈ hoisted.map Model.name

namespace Grows

variable {before middle after : Names} {first second : List Model}

/-- A step that hoists nothing takes nothing. -/
theorem refl (names : Names) : Grows names [] names where
  generated := by simp
  distinct := List.nodup_nil
  fresh := by simp
  mem_after := by simp

/-- What was taken stays taken. -/
theorem subset (h : Grows before first after) {name : String} (hname : name ∈ before) :
    name ∈ after :=
  h.mem_after.2 (Or.inl hname)

/-- **Steps in a row:** what the second hoists differs from what the first did, because that is
taken by then. -/
theorem append (h₁ : Grows before first middle) (h₂ : Grows middle second after) :
    Grows before (first ++ second) after where
  generated := by
    intro model hmem
    rcases List.mem_append.1 hmem with hmem | hmem
    · exact h₁.generated model hmem
    · exact h₂.generated model hmem
  distinct := by
    rw [List.map_append]
    refine List.nodup_append.2 ⟨h₁.distinct, h₂.distinct, ?_⟩
    intro name hfirst other hsecond heq
    obtain ⟨model, hmem, rfl⟩ := List.mem_map.1 hsecond
    exact h₂.fresh model hmem (h₁.mem_after.2 (Or.inr (heq ▸ hfirst)))
  fresh := by
    intro model hmem
    rcases List.mem_append.1 hmem with hmem | hmem
    · exact h₁.fresh model hmem
    · exact fun hbefore => h₂.fresh model hmem (h₁.subset hbefore)
  mem_after := by
    intro name
    rw [h₂.mem_after, h₁.mem_after, List.map_append, List.mem_append, or_assoc]

/-- The order in which the models are listed does not matter. -/
theorem of_perm (h : Grows before first after) (hperm : first.Perm second) :
    Grows before second after where
  generated := fun model hmem => h.generated model (hperm.mem_iff.2 hmem)
  distinct := (hperm.map Model.name).nodup_iff.1 h.distinct
  fresh := fun model hmem => h.fresh model (hperm.mem_iff.2 hmem)
  mem_after := by
    intro name
    rw [h.mem_after, (hperm.map Model.name).mem_iff]

/-- **A claim:** the model that gets the claimed name is hoisted together with what is hoisted on
the way to it. -/
theorem claim {preferred : String} {model : Model} (hgenerated : model.generated = true)
    (hname : model.name = (before.claim preferred).1)
    (h : Grows (before.claim preferred).2 first after) : Grows before (model :: first) after where
  generated := by
    intro other hmem
    rcases List.mem_cons.1 hmem with rfl | hmem
    · exact hgenerated
    · exact h.generated other hmem
  distinct := by
    refine List.nodup_cons.2 ⟨fun hmem => ?_, h.distinct⟩
    obtain ⟨other, hother, heq⟩ := List.mem_map.1 hmem
    apply h.fresh other hother
    rw [heq, hname]
    exact before.claim_mem preferred
  fresh := by
    intro other hmem
    rcases List.mem_cons.1 hmem with rfl | hmem
    · rw [hname]
      exact before.claim_not_mem preferred
    · exact fun hbefore => h.fresh other hmem (Names.mem_claim.2 (Or.inr hbefore))
  mem_after := by
    intro name
    rw [h.mem_after, Names.mem_claim, List.map_cons, List.mem_cons, hname]
    constructor
    · rintro ((h | h) | h)
      · exact Or.inr (Or.inl h)
      · exact Or.inl h
      · exact Or.inr (Or.inr h)
    · rintro (h | h | h)
      · exact Or.inl (Or.inr h)
      · exact Or.inl (Or.inl h)
      · exact Or.inr h

end Grows

/-! ## Steps that hoist -/

/-- Every model of the list is what the graph gives for its name. -/
def Graph.Stores (graph : Graph) (models : List Model) : Prop :=
  ∀ model ∈ models, graph.get? model.name = some model

/-- A building step from `names`: it grows the names, and its result stands as `stands` says in any
graph that holds the models hoisted. -/
structure Hoists {α : Type} (names : Names) (built : Built α) (stands : Graph → α → Prop) :
    Prop where
  grows : Grows names built.hoisted built.names
  result : ∀ graph : Graph, graph.Stores built.hoisted → stands graph built.result

namespace Hoists

variable {α β γ : Type} {names : Names}

/-- A step that hoists nothing. -/
theorem pure {a : α} {stands : Graph → α → Prop} (h : ∀ graph, stands graph a) :
    Hoists names ⟨a, [], names⟩ stands :=
  ⟨Grows.refl names, fun graph _ => h graph⟩

/-- The same step with its result put to use. -/
theorem map {built : Built α} {b : β} {stands : Graph → α → Prop} {stands' : Graph → β → Prop}
    (h : Hoists names built stands) (hb : ∀ graph, stands graph built.result → stands' graph b) :
    Hoists names ⟨b, built.hoisted, built.names⟩ stands' :=
  ⟨h.grows, fun graph hstores => hb graph (h.result graph hstores)⟩

/-- **One step after the other.** -/
theorem append {first : Built α} {second : Built β} {c : γ} {stands₁ : Graph → α → Prop}
    {stands₂ : Graph → β → Prop} {stands : Graph → γ → Prop} (h₁ : Hoists names first stands₁)
    (h₂ : Hoists first.names second stands₂)
    (hc : ∀ graph, stands₁ graph first.result → stands₂ graph second.result → stands graph c) :
    Hoists names ⟨c, first.hoisted ++ second.hoisted, second.names⟩ stands := by
  refine ⟨h₁.grows.append h₂.grows, fun graph hstores => ?_⟩
  have hfirst := h₁.result graph fun model hmem => hstores model (List.mem_append_left _ hmem)
  have hsecond := h₂.result graph fun model hmem => hstores model (List.mem_append_right _ hmem)
  exact hc graph hfirst hsecond

/-- The order in which the models are listed does not matter. -/
theorem of_perm {a : α} {hoisted listed : List Model} {after : Names}
    {stands : Graph → α → Prop} (h : Hoists names ⟨a, hoisted, after⟩ stands)
    (hperm : hoisted.Perm listed) : Hoists names ⟨a, listed, after⟩ stands := by
  refine ⟨h.grows.of_perm hperm, fun graph hstores => h.result graph fun model hmem => ?_⟩
  exact hstores model (hperm.mem_iff.1 hmem)

/-- **A model of one's own:** a name is claimed, the model built under it and hoisted, and the
result put to use, knowing that the graph holds the model. -/
theorem claim {preferred : String} {built : Built Model} {b : β} {stands : Graph → Model → Prop}
    {stands' : Graph → β → Prop} (hgenerated : built.result.generated = true)
    (hname : built.result.name = (names.claim preferred).1)
    (h : Hoists (names.claim preferred).2 built stands)
    (hb : ∀ graph : Graph, graph.get? (names.claim preferred).1 = some built.result →
      stands graph built.result → stands' graph b) :
    Hoists names ⟨b, built.result :: built.hoisted, built.names⟩ stands' := by
  refine ⟨h.grows.claim hgenerated hname, fun graph hstores => ?_⟩
  have hstored := hstores built.result List.mem_cons_self
  have hinner := h.result graph fun model hmem => hstores model (List.mem_cons_of_mem _ hmem)
  exact hb graph (hname ▸ hstored) hinner

end Hoists

end ClientForge
