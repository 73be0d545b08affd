/-
  Graphs that agree on a closed set of names generate the same models from it.

  `AgreeOn kept small large` is the relation between a graph and a part of it: on the kept names they
  give the same models, and whatever a kept model refers to is kept.  Everything the generators look up
  starts at a kept name and goes along references, so it never leaves the kept names.  It follows for
  one lookup after the other that it comes out the same in both graphs: the type of a token, how a
  value is written, the members held by value, the items of a model.

  The relation is symmetric, which saves half of the arguments: for an answer that is yes or no it is
  enough that the one graph says yes if the other does (`holds_of_holds`).

  * **Scalars.**  This is the one case where the two graphs search differently, because the bound on the
    search is the graph's size.  There the path along the aliases is carried over and not the search: a
    path in the larger graph that begins at a kept name stays among the kept names, so it is one in the
    smaller graph, and there too the search finds the end of any path (`scalarOf?_eq`).
  * **Reachability** carries over in general, if the targets of each kept model do (`reachable`).

  That the models are sound is needed for what is held by value: the children of an enumeration are
  literals, and nothing is known of names that happen to be spelled like them.
-/
import ClientForge.Proofs.Graph.Alias
import ClientForge.Proofs.Models.ByValue

namespace ClientForge

/-- `AgreeOn kept small large` — both graphs give the kept names the same models; these are sound
and refer to kept names only. -/
structure AgreeOn (kept : String → Prop) (small large : Graph) : Prop where
  get? : ∀ {name}, kept name → small.get? name = large.get? name
  closed : ∀ {name model}, kept name → large.get? name = some model →
    ∀ target, model.RefersTo target → kept target
  sound : ∀ {name model}, kept name → large.get? name = some model → model.SoundEnum

namespace AgreeOn

variable {kept : String → Prop} {small large : Graph}

/-- The relation is symmetric. -/
theorem symm (h : AgreeOn kept small large) : AgreeOn kept large small where
  get? hk := (h.get? hk).symm
  closed hk hmodel := h.closed hk ((h.get? hk).symm.trans hmodel)
  sound hk hmodel := h.sound hk ((h.get? hk).symm.trans hmodel)

/-! ## Lookups, aliases and reachability -/

/-- The same kept names have a model. -/
theorem contains_eq (h : AgreeOn kept small large) {name : String} (hk : kept name) :
    small.contains name = large.contains name := by
  show (small.get? name).isSome = (large.get? name).isSome
  rw [h.get? hk]

/-- The same kept names are enumerations of texts. -/
theorem isStringEnum_eq (h : AgreeOn kept small large) {name : String} (hk : kept name) :
    small.isStringEnum name = large.isStringEnum name := by
  rw [Graph.isStringEnum, Graph.isStringEnum, h.get? hk]

/-- A path along aliases from a kept name stays inside the kept names. -/
theorem aliasPath (h : AgreeOn kept small large) {token : TypeToken} {names : List String}
    {p : Primitive} (ht : ∀ name, token.Mentions name → kept name)
    (hpath : Graph.AliasPath large token names p) : Graph.AliasPath small token names p := by
  induction hpath with
  | scalar p => exact .scalar p
  | @viaAlias name model token names p hmodel ha _ ih =>
    have hk : kept name := ht name (.named name)
    refine .viaAlias ((h.get? hk).trans hmodel) ha (ih fun target hm => ?_)
    exact h.closed hk hmodel target (.viaAlias token ha hm)

/-- **The same scalar,** although the larger graph may look further. -/
theorem scalarOf?_eq (h : AgreeOn kept small large) {token : TypeToken}
    (ht : ∀ name, token.Mentions name → kept name) :
    small.scalarOf? token = large.scalarOf? token := by
  apply Option.ext
  intro p
  rw [Graph.scalarOf?_eq_some_iff, Graph.scalarOf?_eq_some_iff]
  constructor
  · rintro ⟨names, hpath⟩
    exact ⟨names, h.symm.aliasPath ht hpath⟩
  · rintro ⟨names, hpath⟩
    exact ⟨names, h.aliasPath ht hpath⟩

/-- Reachability from kept names stays inside them and carries over, if the targets of each kept
model do. -/
theorem reachable (h : AgreeOn kept small large) {targets targets' : Model → List String}
    {start : List String} {name : String} (hstart : ∀ x ∈ start, kept x)
    (htargets : ∀ {owner model}, kept owner → large.get? owner = some model →
      ∀ x ∈ targets model, x ∈ targets' model ∧ kept x)
    (hreach : Graph.Reachable large targets start name) :
    Graph.Reachable small targets' start name ∧ kept name := by
  induction hreach with
  | start hx => exact ⟨.start hx, hstart _ hx⟩
  | step _ hmodel hx ih =>
    obtain ⟨howner, hk⟩ := ih
    obtain ⟨hx', hkx⟩ := htargets hk hmodel _ hx
    exact ⟨.step howner ((h.get? hk).trans hmodel) hx', hkx⟩

end AgreeOn

namespace Sdk

open ClientForge.Code

variable {kept : String → Prop} {small large : Graph}

/-! ## Types and wire text -/

/-- A token whose names are kept has the same type. -/
theorem typeOf_eq (h : AgreeOn kept small large) {token : TypeToken}
    (ht : ∀ name, token.Mentions name → kept name) : typeOf small token = typeOf large token := by
  induction token with
  | primitive p => rfl
  | named name =>
    have hk : kept name := ht name (.named name)
    rw [typeOf, typeOf, h.contains_eq hk]
  | array item ih => rw [typeOf, typeOf, ih fun name hm => ht name (.array hm)]
  | map value ih => rw [typeOf, typeOf, ih fun name hm => ht name (.map hm)]
  | any => rfl

/-- It is an enumeration of texts in both graphs or in neither. -/
theorem isTextEnum_eq (h : AgreeOn kept small large) {token : TypeToken}
    (ht : ∀ name, token.Mentions name → kept name) :
    isTextEnum small token = isTextEnum large token := by
  cases token with
  | named name => exact h.isStringEnum_eq (ht name (.named name))
  | primitive p => rfl
  | array item => rfl
  | map value => rfl
  | any => rfl

/-- It is written in the same way. -/
theorem wireKind_eq (h : AgreeOn kept small large) {token : TypeToken}
    (ht : ∀ name, token.Mentions name → kept name) :
    wireKind small token = wireKind large token := by
  rw [wireKind, wireKind, isTextEnum_eq h ht, h.scalarOf?_eq ht]

/-! ## Members held by value -/

/-- What is found to be an object in the one graph is one in the other. -/
theorem objectWithin (h : AgreeOn kept small large) {steps : Nat} {name : String} (hk : kept name)
    (ho : ObjectWithin large steps name) : ObjectWithin small steps name := by
  induction ho with
  | struct hmodel hs => exact .struct ((h.get? hk).trans hmodel) hs
  | empty hmodel hs => exact .empty ((h.get? hk).trans hmodel) hs
  | map hmodel hs ha => exact .map ((h.get? hk).trans hmodel) hs ha
  | @viaAlias _ _ target _ hmodel hs ha _ ih =>
    have hkt : kept target := h.closed hk hmodel target (.viaAlias _ ha (.named target))
    exact .viaAlias ((h.get? hk).trans hmodel) hs ha (ih hkt)
  | @child _ _ child _ hmodel hs hc _ ih =>
    have henum := Model.isEnum_of_shape_composition (h.sound hk hmodel) hs
    have hkc : kept child := h.closed hk hmodel child (.child henum hc)
    exact .child ((h.get? hk).trans hmodel) hs hc (ih hkc)

/-- The same kept names can be embedded. -/
theorem embeds_eq (h : AgreeOn kept small large) {name : String} (hk : kept name) :
    embeds small name = embeds large name := by
  apply Bool.eq_iff_iff.2
  rw [embeds, embeds, embedsWithin_iff, embedsWithin_iff]
  exact ⟨objectWithin h.symm hk, objectWithin h hk⟩

/-- A model of which everything it refers to is kept embeds the same children. -/
theorem embedded_eq (h : AgreeOn kept small large) {model : Model}
    (hrefs : ∀ target, model.RefersTo target → kept target) (he : model.isEnum = false) :
    embedded small model = embedded large model := by
  rw [embedded, embedded]
  apply List.filter_congr
  intro child hchild
  exact embeds_eq h (hrefs child (.child he hchild))

/-- A model of which everything it refers to is kept holds the same models by value. -/
theorem heldByValue_eq (h : AgreeOn kept small large) {model : Model}
    (hrefs : ∀ target, model.RefersTo target → kept target) (hs : model.SoundEnum) :
    heldByValue small model = heldByValue large model := by
  unfold heldByValue
  cases hshape : model.shape with
  | composition => exact embedded_eq h hrefs (Model.isEnum_of_shape_composition hs hshape)
  | enumAlias => rfl
  | plainAlias => rfl
  | struct => rfl
  | empty => rfl

/-- A way by value from a kept name is one in the other graph. -/
theorem holds_of_holds (h : AgreeOn kept small large) {owner target : String} (hk : kept owner)
    (hholds : holds large owner target = true) : holds small owner target = true := by
  rw [holds_iff] at hholds ⊢
  refine (h.reachable (fun x hx => ?_) (fun hk hmodel x hx => ?_) hholds).1
  · rw [List.mem_singleton.1 hx]
    exact hk
  · have hs := h.sound hk hmodel
    rw [heldByValue_eq h (h.closed hk hmodel) hs]
    exact ⟨hx, h.closed hk hmodel x (refersTo_of_mem_heldByValue hs hx)⟩

/-- **The same boxes:** a kept name leads to the same names by value in both graphs. -/
theorem holds_eq (h : AgreeOn kept small large) {owner : String} (hk : kept owner)
    (target : String) : holds small owner target = holds large owner target :=
  Bool.eq_iff_iff.2 ⟨holds_of_holds h.symm hk, holds_of_holds h hk⟩

end Sdk

end ClientForge
