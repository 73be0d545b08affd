/-
  Which parts of a composition are embedded in it.

  A composition is emitted as a record that has each of its parts for a flattened member, so that their
  entries stand side by side.  That makes sense for a part that is written as a JSON object, and only
  such parts are embedded.  A part is one if aliases and compositions lead from it, through however
  many, to a record or a map (`IsObject`).

  The emitter looks a fixed number of steps ahead, because aliases and compositions may go in circles.
  So there are two things to say (`objects_embedded`).

  1. It finds exactly the names that lead to an object within that number of steps, and each is
     embedded as a member of its own, in their order (`flattens_embeddedMembers`).
  2. A way that comes back to a name can be cut short there, so the shortest way passes no name twice
     and has fewer steps than there are models (`IsObject.within_size`).  In a graph that is no larger
     than the look is long nothing is missed.

  In a larger graph it misses exactly what lies deeper.  The last section has the smallest chain where
  this happens: a composition of a composition and so on, with a map at the end, whose first part is
  always written as an object and is left out all the same.
-/
import ClientForge.Proofs.Models.Boxing
import ClientForge.Proofs.Models.WrittenJson

namespace ClientForge

open ClientForge.Code

/-! ## Members for parts -/

/-- The path that a type wraps in boxes and options. -/
def Code.Ty.wrapped? : Ty → Option String
  | .path name => some name
  | .box inner => inner.wrapped?
  | .option inner => inner.wrapped?
  | _ => none

/-- `member.Flattens child` — the member is the child, its members put among those of the record. -/
def Code.Member.Flattens (member : Member) (child : String) : Prop :=
  member.isFlat = true ∧ member.type.wrapped? = some child

namespace Sdk

open Relation

/-! ## JSON objects -/

/-- The model of that name is a record, an untyped map, or another name for a map. -/
inductive OwnObject (graph : Graph) (name : String) : Prop
  | struct {model : Model} (hmodel : graph.get? name = some model) (hs : model.shape = .struct)
  | empty {model : Model} (hmodel : graph.get? name = some model) (hs : model.shape = .empty)
  | map {model : Model} {value : TypeToken} (hmodel : graph.get? name = some model)
      (hs : model.shape = .plainAlias) (ha : model.aliasOf = some (.map value))

/-- `EmbedStep graph owner target` — the owner is another plain name for the target, or composes
it. -/
inductive EmbedStep (graph : Graph) : String → String → Prop
  | viaAlias {owner target : String} {model : Model} (hmodel : graph.get? owner = some model)
      (hs : model.shape = .plainAlias) (ha : model.aliasOf = some (.named target)) :
      EmbedStep graph owner target
  | child {owner target : String} {model : Model} (hmodel : graph.get? owner = some model)
      (hs : model.shape = .composition) (hc : target ∈ model.children) :
      EmbedStep graph owner target

/-- `IsObject graph name` — through aliases and compositions, however many, the name leads to an
object of its own. -/
def IsObject (graph : Graph) (name : String) : Prop :=
  ∃ last, ReflTransGen (EmbedStep graph) name last ∧ OwnObject graph last

variable {graph : Graph} {name next : String} {steps : Nat}

/-- An object of its own is found without a step. -/
theorem OwnObject.objectWithin (h : OwnObject graph name) (steps : Nat) :
    ObjectWithin graph steps name := by
  cases h with
  | struct hmodel hs => exact .struct hmodel hs
  | empty hmodel hs => exact .empty hmodel hs
  | map hmodel hs ha => exact .map hmodel hs ha

/-- A step more in front of what is found. -/
theorem EmbedStep.objectWithin (hstep : EmbedStep graph name next)
    (h : ObjectWithin graph steps next) : ObjectWithin graph (steps + 1) name := by
  cases hstep with
  | viaAlias hmodel hs ha => exact .viaAlias hmodel hs ha h
  | child hmodel hs hc => exact .child hmodel hs hc h

/-- An object of its own has a model. -/
theorem OwnObject.mem_names (h : OwnObject graph name) : name ∈ graph.names := by
  cases h with
  | struct hmodel => exact Graph.mem_names.2 ⟨_, hmodel⟩
  | empty hmodel => exact Graph.mem_names.2 ⟨_, hmodel⟩
  | map hmodel => exact Graph.mem_names.2 ⟨_, hmodel⟩

/-- So has whatever a step leads from. -/
theorem EmbedStep.mem_names (h : EmbedStep graph name next) : name ∈ graph.names := by
  cases h with
  | viaAlias hmodel => exact Graph.mem_names.2 ⟨_, hmodel⟩
  | child hmodel => exact Graph.mem_names.2 ⟨_, hmodel⟩

/-- A step to an object is a step from one. -/
theorem IsObject.head (hstep : EmbedStep graph name next) (h : IsObject graph next) :
    IsObject graph name := by
  obtain ⟨last, hleads, hlast⟩ := h
  exact ⟨last, .head hstep hleads, hlast⟩

/-- What is found is an object. -/
theorem isObject_of_objectWithin (h : ObjectWithin graph steps name) : IsObject graph name := by
  induction h with
  | struct hmodel hs => exact ⟨_, .refl, .struct hmodel hs⟩
  | empty hmodel hs => exact ⟨_, .refl, .empty hmodel hs⟩
  | map hmodel hs ha => exact ⟨_, .refl, .map hmodel hs ha⟩
  | viaAlias hmodel hs ha _ ih => exact ih.head (.viaAlias hmodel hs ha)
  | child hmodel hs hc _ ih => exact ih.head (.child hmodel hs hc)

/-! ## The shortest way -/

/-- `ObjectPath graph name names` — these names, one after the other, lead from the first one to an
object of its own. -/
inductive ObjectPath (graph : Graph) : String → List String → Prop
  | here {name : String} (h : OwnObject graph name) : ObjectPath graph name [name]
  | step {name next : String} {names : List String} (hstep : EmbedStep graph name next)
      (h : ObjectPath graph next names) : ObjectPath graph name (name :: names)

variable {names : List String}

/-- A way is found by a look of its length. -/
theorem ObjectPath.objectWithin (h : ObjectPath graph name names) :
    ∃ steps, names.length = steps + 1 ∧ ObjectWithin graph steps name := by
  induction h with
  | here h => exact ⟨0, rfl, h.objectWithin 0⟩
  | step hstep _ ih =>
    obtain ⟨steps, hlen, hwithin⟩ := ih
    exact ⟨steps + 1, by rw [List.length_cons, hlen], hstep.objectWithin hwithin⟩

/-- The names on a way have models. -/
theorem ObjectPath.subset_names (h : ObjectPath graph name names) : names ⊆ graph.names := by
  induction h with
  | here h => exact List.cons_subset.2 ⟨h.mem_names, List.nil_subset _⟩
  | step hstep _ ih => exact List.cons_subset.2 ⟨hstep.mem_names, ih⟩

/-- From each name on the way the rest of it leads on. -/
theorem ObjectPath.from_mem {other : String} (h : ObjectPath graph name names)
    (hmem : other ∈ names) : ∃ rest, rest <:+ names ∧ ObjectPath graph other rest := by
  induction h with
  | here h =>
    obtain rfl := List.mem_singleton.1 hmem
    exact ⟨_, List.suffix_refl _, .here h⟩
  | step hstep h ih =>
    rcases List.mem_cons.1 hmem with rfl | hmem
    · exact ⟨_, List.suffix_refl _, .step hstep h⟩
    · obtain ⟨rest, hsuffix, hrest⟩ := ih hmem
      exact ⟨rest, hsuffix.trans (List.suffix_cons _ _), hrest⟩

/-- **A way without detours:** one that comes back to a name is cut short there. -/
theorem IsObject.exists_path (h : IsObject graph name) :
    ∃ names, names.Nodup ∧ ObjectPath graph name names := by
  obtain ⟨last, hleads, hlast⟩ := h
  induction hleads using ReflTransGen.head_induction_on with
  | refl => exact ⟨[last], List.pairwise_singleton _ _, .here hlast⟩
  | @head name next hstep _ ih =>
    obtain ⟨names, hnodup, hpath⟩ := ih
    by_cases hmem : name ∈ names
    · -- the rest of the way comes by again, and what follows there is a way already
      obtain ⟨rest, hsuffix, hrest⟩ := hpath.from_mem hmem
      exact ⟨rest, hnodup.sublist hsuffix.sublist, hrest⟩
    · exact ⟨name :: names, List.nodup_cons.2 ⟨hmem, hnodup⟩, .step hstep hpath⟩

/-- **The shortest way** has fewer steps than there are models. -/
theorem IsObject.within_size (h : IsObject graph name) :
    ∃ steps, steps < graph.size ∧ ObjectWithin graph steps name := by
  obtain ⟨names, hnodup, hpath⟩ := h.exists_path
  obtain ⟨steps, hlen, hwithin⟩ := hpath.objectWithin
  have hle := hnodup.length_le_of_subset hpath.subset_names
  rw [hlen, Graph.names, Table.keys, List.length_map] at hle
  exact ⟨steps, hle, hwithin⟩

/-! ## What is emitted for a composition -/

/-- The children that are embedded are those found within the steps that the emitter takes. -/
theorem mem_embedded_iff_within {model : Model} {child : String} :
    child ∈ embedded graph model ↔ child ∈ model.children ∧ ObjectWithin graph 8 child :=
  mem_embedded.trans (and_congr_right fun _ => embedsWithin_iff)

/-- The members of a composition are its embedded parts, one by one. -/
theorem flattens_embeddedMembers (graph : Graph) (model : Model) :
    List.Forall₂ Member.Flattens (embeddedMembers graph model) (embedded graph model) := by
  have h : List.Forall₂ Member.Flattens (embeddedMembers graph model)
      ((embedded graph model).map id) := by
    unfold embeddedMembers
    apply forall₂_zip_map
    · rw [Names.length_claimIdents, List.length_map]
    · intro ident child _
      dsimp only
      cases model.union <;> cases holds graph child model.name <;>
        exact ⟨rfl, rfl⟩
  rwa [List.map_id] at h

/-- A composition with a part to embed becomes a record of those parts. -/
theorem modelItems_of_embedded {model : Model} {child : String}
    (hchild : child ∈ embedded graph model) (hs : model.shape = .composition) :
    modelItems graph model =
      [.struct model.name model.description (embeddedMembers graph model)] := by
  rw [modelItems_of_composition graph hs, if_neg (List.ne_nil_of_mem hchild)]

/-- **Parts that are objects are embedded,** as far as the emitter looks.  It finds exactly the
names that lead to an object in at most eight steps; where a way of any length is there, one shorter
than the number of models is, so nothing is missed among nine models.  A composition with such a
part becomes a record with one member for each of them, in the order of their names. -/
theorem objects_embedded (graph : Graph) :
    (∀ name, embeds graph name = true ↔ ObjectWithin graph 8 name) ∧
    (∀ name, IsObject graph name ↔ ∃ steps, steps < graph.size ∧ ObjectWithin graph steps name) ∧
    (graph.size ≤ 9 → ∀ name, embeds graph name = true ↔ IsObject graph name) ∧
    ∀ model child, model.shape = .composition → child ∈ model.children →
      ObjectWithin graph 8 child →
      ∃ members parts, modelItems graph model = [.struct model.name model.description members] ∧
        List.Forall₂ Member.Flattens members parts ∧ parts.Pairwise (· < ·) ∧
        ∀ part, part ∈ parts ↔ part ∈ model.children ∧ ObjectWithin graph 8 part := by
  have hembeds : ∀ name, embeds graph name = true ↔ ObjectWithin graph 8 name :=
    fun _ => embedsWithin_iff
  refine ⟨hembeds, fun name => ⟨IsObject.within_size, ?_⟩, fun hsize name => ?_, ?_⟩
  · rintro ⟨steps, -, hwithin⟩
    exact isObject_of_objectWithin hwithin
  · rw [hembeds]
    refine ⟨isObject_of_objectWithin, fun h => ?_⟩
    -- with nine models there are at most eight steps
    obtain ⟨steps, hlt, hwithin⟩ := h.within_size
    exact hwithin.mono (by omega)
  · intro model child hs hchild hwithin
    exact ⟨_, _, modelItems_of_embedded (mem_embedded_iff_within.2 ⟨hchild, hwithin⟩) hs,
      flattens_embeddedMembers graph model, model.children.sorted.filter _,
      fun part => mem_embedded_iff_within⟩

/-- Ten compositions, each of the next one, with an untyped map at the end; the first one has a note
besides. -/
def layers : Graph := .ofList
  ({ name := "Layer0", children := .ofList ["Layer1", "Note"] } :: { name := "Note" } ::
    { name := "Layer10" } :: (List.range' 1 9).map fun n =>
      { name := "Layer" ++ decimalText n, children := .ofList ["Layer" ++ decimalText (n + 1)] })

/-- The second layer leads to the map, in nine steps, and is always written as an object.  The first
one composes it, and yet is emitted as a record with the note as its only member. -/
theorem layers_not_embedded :
    IsObject layers "Layer1" ∧ embeds layers "Layer1" = false ∧
    (∀ foreign json, Writes foreign layers (.path "Layer1") json →
      ∃ entries, json = .object entries) ∧
    ∃ model members, layers.get? "Layer0" = some model ∧ model.shape = .composition ∧
      "Layer1" ∈ model.children ∧
      modelItems layers model = [.struct "Layer0" none members] ∧
      List.Forall₂ Member.Flattens members ["Note"] := by
  have hwithin : ObjectWithin layers 9 "Layer1" := embedsWithin_iff.1 (by decide +kernel)
  let second : Model := { name := "Layer1", children := .ofList ["Layer2"] }
  have hget : layers.get? "Layer1" = some second := by decide +kernel
  have hsecond : "Layer2" ∈ embedded layers second := by decide +kernel
  let first : Model := { name := "Layer0", children := .ofList ["Layer1", "Note"] }
  have hparts : embedded layers first = ["Note"] := by decide +kernel
  have hfirst : "Note" ∈ embedded layers first := hparts ▸ List.mem_singleton_self "Note"
  have hmembers := flattens_embeddedMembers layers first
  rw [hparts] at hmembers
  refine ⟨isObject_of_objectWithin hwithin, by decide +kernel, fun foreign json hwrites => ?_,
    first, _, by decide +kernel, rfl, Names.contains_iff.1 (by decide +kernel),
    modelItems_of_embedded hfirst rfl, hmembers⟩
  have hitems := modelItems_of_embedded hsecond rfl
  obtain ⟨entries, rfl, -⟩ := (writes_path_iff hget (by decide) hitems).1 hwrites
  exact ⟨entries, rfl⟩

end Sdk

end ClientForge
