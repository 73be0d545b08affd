/-
  What a model holds by value, and what its shape says about its parts.

  Two questions about models are answered by searches in the emitter: whether a child of a composition
  is written as a JSON object, so that it can be embedded, and whether a value of one model holds a
  value of another.  Here both are said by rules.

  * `ObjectWithin` has one rule for each way in which a look at a model can end or go on.  The look is
    bounded, and with no step left only the rules that end it apply; the bound is part of the relation,
    so that nothing is claimed about what lies deeper (`embedsWithin_iff`).
  * Holding is reachability along the members held by value (`holds_iff`), whatever cycles there are.

  An enumeration is sound if it is another name for a scalar (`SoundEnum`).  The condition is needed in
  one place.  An enumeration without an alias would have the shape of a composition, and its literals
  would be looked at as if they were names of models.  Among sound models a composition is no
  enumeration, so its children are models, and everything that a model holds by value is something it
  refers to (`refersTo_of_mem_heldByValue`).  All models built of schemas are sound.
-/
import ClientForge.Proofs.Graph.Reach
import ClientForge.Proofs.Models.References
import ClientForge.Sdk.Models

namespace ClientForge

/-! ## Shapes -/

/-- `model.SoundEnum` — as an enumeration, the model is another name for a scalar. -/
def Model.SoundEnum (model : Model) : Prop :=
  model.isEnum = true → ∃ p, model.aliasOf = some (.primitive p)

/-- `graph.SoundEnums` — every enumeration of the graph is another name for a scalar. -/
def Graph.SoundEnums (graph : Graph) : Prop :=
  ∀ model ∈ graph.toList, model.SoundEnum

/-- Whether an enumeration is sound can be computed. -/
instance Model.decidableSoundEnum (model : Model) : Decidable model.SoundEnum :=
  match he : model.isEnum, ha : model.aliasOf with
  | false, _ => .isTrue fun h => by rw [he] at h; cases h
  | true, some (.primitive p) => .isTrue fun _ => ⟨p, ha⟩
  | true, none
  | true, some (.named _)
  | true, some (.array _)
  | true, some (.map _)
  | true, some .any => .isFalse fun h => by
    obtain ⟨p, hp⟩ := h he
    rw [ha] at hp
    cases hp

/-- Whether all enumerations of a graph are sound can be computed. -/
instance Graph.decidableSoundEnums (graph : Graph) : Decidable graph.SoundEnums :=
  inferInstanceAs (Decidable (∀ model ∈ graph.toList, model.SoundEnum))

/-- Each model of a sound graph is sound. -/
theorem Graph.SoundEnums.of_get? {graph : Graph} {name : String} {model : Model}
    (h : graph.SoundEnums) (hmodel : graph.get? name = some model) : model.SoundEnum := by
  have hname := Graph.name_of_get? hmodel
  subst hname
  exact h model (Graph.mem_toList.2 hmodel)

namespace Model

/-- A composition is no alias. -/
theorem aliasOf_of_shape_composition {model : Model} (h : model.shape = .composition) :
    model.aliasOf = none := by
  cases ha : model.aliasOf with
  | none => rfl
  | some token =>
    exfalso
    cases he : model.isEnum <;> simp [shape, ha, he] at h

/-- The children of a composition are models. -/
theorem isEnum_of_shape_composition {model : Model} (hs : model.SoundEnum)
    (h : model.shape = .composition) : model.isEnum = false := by
  apply Bool.eq_false_iff.2
  intro he
  obtain ⟨p, ha⟩ := hs he
  rw [aliasOf_of_shape_composition h] at ha
  cases ha

end Model

namespace Sdk

/-! ## Models that are JSON objects -/

/-- `ObjectWithin graph steps name` — at most that many steps along plain aliases and composed
children lead from the name to a record, an untyped map or a map of its own. -/
inductive ObjectWithin (graph : Graph) : Nat → String → Prop
  | struct {steps : Nat} {name : String} {model : Model} (hmodel : graph.get? name = some model)
      (hs : model.shape = .struct) : ObjectWithin graph steps name
  | empty {steps : Nat} {name : String} {model : Model} (hmodel : graph.get? name = some model)
      (hs : model.shape = .empty) : ObjectWithin graph steps name
  | map {steps : Nat} {name : String} {model : Model} {value : TypeToken}
      (hmodel : graph.get? name = some model) (hs : model.shape = .plainAlias)
      (ha : model.aliasOf = some (.map value)) : ObjectWithin graph steps name
  | viaAlias {steps : Nat} {name target : String} {model : Model}
      (hmodel : graph.get? name = some model) (hs : model.shape = .plainAlias)
      (ha : model.aliasOf = some (.named target)) (h : ObjectWithin graph steps target) :
      ObjectWithin graph (steps + 1) name
  | child {steps : Nat} {name child : String} {model : Model}
      (hmodel : graph.get? name = some model) (hs : model.shape = .composition)
      (hc : child ∈ model.children) (h : ObjectWithin graph steps child) :
      ObjectWithin graph (steps + 1) name

/-- The look finds what the rules say. -/
theorem embedsWithin_of_objectWithin {graph : Graph} {steps : Nat} {name : String}
    (h : ObjectWithin graph steps name) : embedsWithin graph steps name = true := by
  induction h with
  | struct hmodel hs => simp [embedsWithin, hmodel, hs]
  | empty hmodel hs => simp [embedsWithin, hmodel, hs]
  | map hmodel hs ha => simp [embedsWithin, hmodel, hs, ha]
  | viaAlias hmodel hs ha _ ih => simp [embedsWithin, hmodel, hs, ha, ih]
  | child hmodel hs hc _ ih =>
    simp only [embedsWithin, hmodel, hs]
    exact List.any_eq_true.2 ⟨_, hc, ih⟩

/-- What the look finds, the rules say. -/
theorem objectWithin_of_embedsWithin {graph : Graph} {steps : Nat} {name : String}
    (h : embedsWithin graph steps name = true) : ObjectWithin graph steps name := by
  induction steps generalizing name with
  | zero =>
    -- with no step left only the rules that end the look apply
    unfold embedsWithin at h
    cases hmodel : graph.get? name with
    | none => simp [hmodel] at h
    | some model =>
      simp only [hmodel] at h
      split at h
      · rename_i hs; exact .struct hmodel hs
      · rename_i hs; exact .empty hmodel hs
      · rename_i hs
        split at h
        · rename_i ha; exact .map hmodel hs ha
        · rename_i hsteps; cases hsteps
        · cases h
      · rename_i hsteps; cases hsteps
      · cases h
  | succ steps ih =>
    unfold embedsWithin at h
    cases hmodel : graph.get? name with
    | none => simp [hmodel] at h
    | some model =>
      simp only [hmodel] at h
      split at h
      · rename_i hs; exact .struct hmodel hs
      · rename_i hs; exact .empty hmodel hs
      · rename_i hs
        split at h
        · rename_i ha; exact .map hmodel hs ha
        · rename_i ha hsteps
          cases hsteps
          exact .viaAlias hmodel hs ha (ih h)
        · cases h
      · rename_i hs hsteps
        cases hsteps
        obtain ⟨child, hc, h⟩ := List.any_eq_true.1 h
        exact .child hmodel hs hc (ih h)
      · cases h

/-- **What a bounded look finds out:** exactly the rules within that many steps. -/
theorem embedsWithin_iff {graph : Graph} {steps : Nat} {name : String} :
    embedsWithin graph steps name = true ↔ ObjectWithin graph steps name :=
  ⟨objectWithin_of_embedsWithin, embedsWithin_of_objectWithin⟩

/-- A longer look finds what a shorter one does. -/
theorem ObjectWithin.mono {graph : Graph} {steps more : Nat} {name : String}
    (h : ObjectWithin graph steps name) (hle : steps ≤ more) : ObjectWithin graph more name := by
  induction h generalizing more with
  | struct hmodel hs => exact .struct hmodel hs
  | empty hmodel hs => exact .empty hmodel hs
  | map hmodel hs ha => exact .map hmodel hs ha
  | viaAlias hmodel hs ha _ ih =>
    obtain ⟨more, rfl⟩ := Nat.exists_eq_add_of_lt hle
    exact .viaAlias hmodel hs ha (ih (by omega))
  | child hmodel hs hc _ ih =>
    obtain ⟨more, rfl⟩ := Nat.exists_eq_add_of_lt hle
    exact .child hmodel hs hc (ih (by omega))

/-! ## Members held by value -/

/-- The children that are embedded are those found to be objects. -/
theorem mem_embedded {graph : Graph} {model : Model} {child : String} :
    child ∈ embedded graph model ↔ child ∈ model.children ∧ embeds graph child = true :=
  List.mem_filter

/-- What a sound model holds by value, it refers to. -/
theorem refersTo_of_mem_heldByValue {graph : Graph} {model : Model} {target : String}
    (hs : model.SoundEnum) (h : target ∈ heldByValue graph model) : model.RefersTo target := by
  unfold heldByValue at h
  split at h
  · obtain ⟨field, hf, ht⟩ := List.mem_filterMap.1 h
    split at ht
    · rename_i name hname
      cases ht
      refine .field field hf ?_
      rw [hname]
      exact .named target
    · cases ht
  · rename_i hshape
    exact .child (Model.isEnum_of_shape_composition hs hshape) (mem_embedded.1 h).1
  · split at h
    · rename_i name ha
      rw [List.mem_singleton] at h
      subst h
      exact .viaAlias _ ha (.named target)
    · cases h
  · cases h

/-- A value of the one model holds a value of the other if members held by value lead there. -/
theorem holds_iff {graph : Graph} {owner target : String} :
    holds graph owner target = true ↔
      Graph.Reachable graph (heldByValue graph) [owner] target :=
  Graph.leadsTo_iff

end Sdk

end ClientForge
