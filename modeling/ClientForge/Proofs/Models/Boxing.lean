/-
  No record stores itself, and nothing is boxed without need.

  A record of the generated code may not hold a value of its own type in place, at whatever depth, and
  where it would, some member on the way has to be boxed.  Each member is boxed on its own, by a search
  of its own: a member gets a box if by-value references lead from its type back to the record.  Yet
  what is wanted is a property of all emitted types together.

  Both are put down here, and they are about different things.

  1. `ByValue` is said of the graph: a field plainly names the target, a composition embeds it, or an
     alias is another name for it.  This is what the search follows (`holds_iff_reaches`).
  2. `Stores` is said of the emitted code: a member or an alias has a type that stores the target in
     place.  Lists, maps and boxes hold their values elsewhere (`Ty.inPlace?`).

  What is stored in place is by value, and a member that is stored in place never leads back to its
  record, or it would have been boxed (`Stores.byValue`).  So a way back to a record along `Stores`
  would be one along `ByValue`, and its first step leaves the record through a member that leads back —
  a contradiction with the second half for that one step.  No argument about where on a cycle the
  boxes are is needed: every member of a cycle is boxed.

  Minimality is the other direction of the same search, member by member: a member is boxed exactly if
  its declared type leads back (`EmittedFor`).  Enumerations have to be sound, for the literals of an
  unsound one would be taken for models.
-/
import Mathlib.Data.List.Forall2
import Mathlib.Logic.Relation
import ClientForge.Proofs.Models.ByValue
import ClientForge.Proofs.Models.Items
import ClientForge.Proofs.Naming.Fresh

namespace ClientForge

/-! ## Types of emitted code -/

namespace Code.Ty

/-- Whether a value of the type is boxed, or is a boxed one where there is one. -/
def isBoxed : Code.Ty → Bool
  | box _ => true
  | option inner => inner.isBoxed
  | _ => false

/-- The path of the type that a value stores in place, through options.  A box, a list or a map
holds its values elsewhere. -/
def inPlace? : Code.Ty → Option String
  | path name => some name
  | option inner => inner.inPlace?
  | _ => none

end Code.Ty

namespace Sdk

open ClientForge.Code

/-! ## By-value references of the graph -/

/-- `ByValue graph owner target` — a field of a record plainly names the target, a composition
embeds it, or it is what an alias plainly names. -/
inductive ByValue (graph : Graph) : String → String → Prop
  | field {owner target : String} {model : Model} (hmodel : graph.get? owner = some model)
      (hs : model.shape = .struct) (field : Field) (hf : field ∈ model.fields.values)
      (ht : field.type = .named target) : ByValue graph owner target
  | child {owner target : String} {model : Model} (hmodel : graph.get? owner = some model)
      (hs : model.shape = .composition) (hc : target ∈ model.children)
      (ho : ObjectWithin graph embeddingDepth target) : ByValue graph owner target
  | viaAlias {owner target : String} {model : Model} (hmodel : graph.get? owner = some model)
      (hs : model.shape = .plainAlias) (ha : model.aliasOf = some (.named target)) :
      ByValue graph owner target

/-- The list of what is held by value holds these references. -/
theorem mem_heldByValue {graph : Graph} {owner target : String} {model : Model}
    (hmodel : graph.get? owner = some model) :
    target ∈ heldByValue graph model ↔ ByValue graph owner target := by
  constructor
  · intro h
    -- The three shapes that hold others by value: fields, children, the target of an alias.
    unfold heldByValue at h
    split at h
    · rename_i hs
      obtain ⟨field, hf, ht⟩ := List.mem_filterMap.1 h
      split at ht
      · rename_i name hname
        cases ht
        exact .field hmodel hs field hf hname
      · cases ht
    · rename_i hs
      obtain ⟨hc, he⟩ := mem_embedded.1 h
      exact .child hmodel hs hc (embedsWithin_iff.1 he)
    · rename_i hs
      split at h
      · rename_i name ha
        rw [List.mem_singleton] at h
        subst h
        exact .viaAlias hmodel hs ha
      · cases h
    · cases h
  · -- Back along the same three, the model being the one stored under the owner.
    intro h
    cases h with
    | field hmodel' hs field hf ht =>
      cases hmodel.symm.trans hmodel'
      simp only [heldByValue, hs]
      exact List.mem_filterMap.2 ⟨field, hf, by rw [ht]⟩
    | child hmodel' hs hc ho =>
      cases hmodel.symm.trans hmodel'
      simp only [heldByValue, hs]
      exact mem_embedded.2 ⟨hc, embedsWithin_iff.2 ho⟩
    | viaAlias hmodel' hs ha =>
      cases hmodel.symm.trans hmodel'
      simp only [heldByValue, hs, ha]
      exact List.mem_singleton_self target

/-- **What the search for a box finds:** whether by-value references lead from the one name to the
other. -/
theorem holds_iff_reaches {graph : Graph} {start target : String} :
    holds graph start target = true ↔ Relation.ReflTransGen (ByValue graph) start target := by
  rw [holds_iff]
  constructor
  · intro h
    induction h with
    | start h =>
      rw [List.mem_singleton] at h
      subst h
      exact .refl
    | step _ hmodel h ih => exact ih.tail ((mem_heldByValue hmodel).1 h)
  · intro h
    induction h with
    | refl => exact .start List.mem_cons_self
    | tail _ h ih =>
      -- every by-value reference starts at a model of the graph
      obtain ⟨model, hmodel⟩ : ∃ model, graph.get? _ = some model := by
        cases h with
        | field hmodel => exact ⟨_, hmodel⟩
        | child hmodel => exact ⟨_, hmodel⟩
        | viaAlias hmodel => exact ⟨_, hmodel⟩
      exact .step ih hmodel ((mem_heldByValue hmodel).2 h)

/-! ## What is emitted for a declared type -/

/-- `LeadsBack graph owner token` — the type plainly names a model, and by-value references lead
from there to the owner. -/
def LeadsBack (graph : Graph) (owner : String) (token : TypeToken) : Prop :=
  ∃ target, token = .named target ∧ Relation.ReflTransGen (ByValue graph) target owner

/-- The emitted type is boxed exactly if the declared one leads back to the owner, and what it
stores in place the declared one plainly names. -/
structure EmittedFor (graph : Graph) (owner : String) (type : Ty) (token : TypeToken) : Prop where
  isBoxed_iff : type.isBoxed = true ↔ LeadsBack graph owner token
  eq_named : ∀ target, token.Mentions target → type.inPlace? = some target → token = .named target

/-- What is stored in place is not boxed. -/
theorem isBoxed_of_inPlace? {type : Ty} {name : String} (h : type.inPlace? = some name) :
    type.isBoxed = false := by
  induction type with
  | option inner ih => exact ih h
  | box inner => cases h
  | path _ => rfl
  | vec _ => rfl
  | map _ => rfl
  | result _ => rfl
  | unit => rfl
  | selfRef => rfl

/-- The type of a token is not boxed. -/
theorem isBoxed_typeOf (graph : Graph) (token : TypeToken) :
    (typeOf graph token).isBoxed = false := by
  cases token with
  | named name =>
    unfold typeOf
    split <;> rfl
  | primitive p => rfl
  | array item => rfl
  | map value => rfl
  | any => rfl

/-- Of the types that mention a model only its plain name is stored in place. -/
theorem eq_named_of_inPlace? {graph : Graph} {token : TypeToken} {target : String}
    (hm : token.Mentions target) (h : (typeOf graph token).inPlace? = some target) :
    token = .named target := by
  cases hm with
  | named => rfl
  | array _ => cases h
  | map _ => cases h

/-- A name leads back if the search finds the owner from it. -/
theorem leadsBack_named_iff {graph : Graph} {owner target : String} :
    LeadsBack graph owner (.named target) ↔ holds graph target owner = true := by
  rw [holds_iff_reaches]
  constructor
  · rintro ⟨other, heq, hreach⟩
    cases heq
    exact hreach
  · intro hreach
    exact ⟨target, rfl, hreach⟩

/-- The two ways in which a field is emitted. -/
theorem fieldType_cases (graph : Graph) (owner : String) (field : Field) :
    (LeadsBack graph owner field.type ∧
      fieldType graph owner field = .option (.box (typeOf graph field.type))) ∨
    (¬ LeadsBack graph owner field.type ∧
      (fieldType graph owner field = typeOf graph field.type ∨
        fieldType graph owner field = .option (typeOf graph field.type))) := by
  -- What is not boxed is the plain type, or that type as an option.
  have hplain : ∀ type : Ty, (if field.required then type else .option type) = type ∨
      (if field.required then type else .option type) = .option type := by
    intro type
    split
    · exact Or.inl rfl
    · exact Or.inr rfl
  unfold fieldType
  cases field.type with
  | named target =>
    -- Only a named type can lead back to the owner.
    dsimp only
    rw [leadsBack_named_iff]
    cases holds graph target owner with
    | true => exact Or.inl ⟨rfl, rfl⟩
    | false => exact Or.inr ⟨Bool.false_ne_true, hplain _⟩
  | _ =>
    refine Or.inr ⟨?_, hplain _⟩
    rintro ⟨target, heq, -⟩
    cases heq

/-- The type that is emitted for a field. -/
theorem emittedFor_fieldType (graph : Graph) (owner : String) (field : Field) :
    EmittedFor graph owner (fieldType graph owner field) field.type := by
  rcases fieldType_cases graph owner field with ⟨hback, htype⟩ | ⟨hback, htype | htype⟩
  · rw [htype]
    exact ⟨iff_of_true rfl hback, fun target _ h => by cases h⟩
  · rw [htype]
    have hbox : ¬ (typeOf graph field.type).isBoxed = true := by simp [isBoxed_typeOf]
    exact ⟨iff_of_false hbox hback, fun target hm h => eq_named_of_inPlace? hm h⟩
  · rw [htype]
    have hbox : ¬ (Ty.option (typeOf graph field.type)).isBoxed = true := by
      simp [Ty.isBoxed, isBoxed_typeOf]
    exact ⟨iff_of_false hbox hback, fun target hm h => eq_named_of_inPlace? hm h⟩

/-- The type of the member for an embedded child. -/
theorem emittedFor_child (graph : Graph) (owner child : String) (union : Bool) :
    let type : Ty := if holds graph child owner then .box (.path child) else .path child
    EmittedFor graph owner (if union then .option type else type) (.named child) := by
  intro type
  have hnamed : ∀ {type : Ty} (target : String), (TypeToken.named child).Mentions target →
      type.inPlace? = some target → TypeToken.named child = .named target := by
    intro type target hm _
    cases hm
    rfl
  refine ⟨?_, hnamed⟩
  rw [leadsBack_named_iff]
  cases hholds : holds graph child owner <;> cases union <;> simp [type, hholds, Ty.isBoxed]

/-! ## The members of a record -/

/-- The types declared for the members of the record that a model becomes, in their order: those of
its fields, or the names of the children it embeds. -/
def declaredTypes (graph : Graph) (model : Model) : List TypeToken :=
  match model.shape with
  | .struct => model.fields.values.map Field.type
  | .composition => (embedded graph model).map TypeToken.named
  | _ => []

/-- Two rows that are made of one, the one with a name for each, are related one by one. -/
theorem forall₂_zip_map {α β γ δ : Type} {related : γ → δ → Prop} {f : α × β → γ} {g : β → δ}
    {idents : List α} {xs : List β} (hlen : idents.length = xs.length)
    (h : ∀ ident, ∀ x ∈ xs, related (f (ident, x)) (g x)) :
    List.Forall₂ related ((idents.zip xs).map f) (xs.map g) := by
  induction xs generalizing idents with
  | nil =>
    rw [List.length_nil, List.length_eq_zero_iff] at hlen
    subst hlen
    exact .nil
  | cons x rest ih =>
    cases idents with
    | nil => simp at hlen
    | cons ident others =>
      rw [List.length_cons, List.length_cons] at hlen
      have hrest : others.length = rest.length := by omega
      have hfirst := h ident x List.mem_cons_self
      exact .cons hfirst (ih hrest fun ident x hx => h ident x (List.mem_cons_of_mem _ hx))

/-- A model has an identifier for each field. -/
theorem length_fieldIdents (model : Model) :
    (fieldIdents model).length = model.fields.values.length := by
  rw [fieldIdents, Names.length_claimIdents, List.length_mapIdx]

/-- **Member by member:** the emitted types of a record are those for its declared types. -/
theorem emittedFor_fieldMembers (graph : Graph) (model : Model) :
    List.Forall₂ (fun member token => EmittedFor graph model.name member.type token)
      (fieldMembers graph model) (model.fields.values.map Field.type) :=
  forall₂_zip_map (length_fieldIdents model) fun _ field _ =>
    emittedFor_fieldType graph model.name field

/-- The emitted types of a composition are those for the children it embeds. -/
theorem emittedFor_embeddedMembers (graph : Graph) (model : Model) :
    List.Forall₂ (fun member token => EmittedFor graph model.name member.type token)
      (embeddedMembers graph model) ((embedded graph model).map TypeToken.named) := by
  unfold embeddedMembers
  apply forall₂_zip_map
  · rw [Names.length_claimIdents, List.length_map]
  · intro ident child _
    have h := emittedFor_child graph model.name child model.union
    dsimp only at h ⊢
    cases hunion : model.union with
    | true =>
      rw [hunion] at h
      exact h
    | false =>
      rw [hunion] at h
      exact h

/-- The members of an emitted record are those for its declared types, one by one. -/
theorem emittedFor_of_struct_mem {graph : Graph} {model : Model} {name : String}
    {doc : Option String} {members : List Member}
    (h : Item.struct name doc members ∈ modelItems graph model) :
    List.Forall₂ (fun member token => EmittedFor graph model.name member.type token) members
      (declaredTypes graph model) := by
  obtain ⟨-, ⟨hs, rfl⟩ | ⟨hs, rfl⟩⟩ := struct_mem_modelItems h
  · simp only [declaredTypes, hs]
    exact emittedFor_fieldMembers graph model
  · simp only [declaredTypes, hs]
    exact emittedFor_embeddedMembers graph model

/-! ## What emitted code stores in place -/

/-- `Stores graph owner target` — in the code emitted for the graph, a value of the one type has one
of the other in place: as a member that is declared with it, or because it is another name for
it. -/
inductive Stores (graph : Graph) : String → String → Prop
  | member {owner target : String} {model : Model} {doc : Option String} {members : List Member}
      {member : Member} {token : TypeToken} (hmodel : graph.get? owner = some model)
      (hitem : .struct owner doc members ∈ modelItems graph model)
      (hmember : (member, token) ∈ members.zip (declaredTypes graph model))
      (hm : token.Mentions target) (ht : member.type.inPlace? = some target) :
      Stores graph owner target
  | viaAlias {owner target : String} {model : Model} {doc : Option String} {type : Ty}
      {token : TypeToken} (hmodel : graph.get? owner = some model)
      (hitem : .typeAlias owner type doc ∈ modelItems graph model)
      (ha : model.aliasOf = some token) (hm : token.Mentions target)
      (ht : type.inPlace? = some target) : Stores graph owner target

/-- What a member is declared as, the model has by value. -/
theorem mem_declaredTypes {graph : Graph} {name target : String} {model : Model}
    (hmodel : graph.get? name = some model)
    (h : TypeToken.named target ∈ declaredTypes graph model) : ByValue graph name target := by
  unfold declaredTypes at h
  split at h
  · rename_i hs
    obtain ⟨field, hf, ht⟩ := List.mem_map.1 h
    exact .field hmodel hs field hf ht
  · rename_i hs
    obtain ⟨child, hchild, heq⟩ := List.mem_map.1 h
    cases heq
    obtain ⟨hc, he⟩ := mem_embedded.1 hchild
    exact .child hmodel hs hc (embedsWithin_iff.1 he)
  · cases h

/-- **One step:** what emitted code stores in place, the graph refers to by value; and if the owner
is a record, nothing leads back to it from there. -/
theorem Stores.byValue {graph : Graph} {owner target : String} (hs : graph.SoundEnums)
    (h : Stores graph owner target) :
    ByValue graph owner target ∧
      ∀ model doc members, graph.get? owner = some model →
        Item.struct owner doc members ∈ modelItems graph model →
        ¬ Relation.ReflTransGen (ByValue graph) target owner := by
  cases h with
  | @member model doc members member token hmodel hitem hmember hm ht =>
    have hname := (struct_mem_modelItems hitem).1
    obtain ⟨hbox, hnamed⟩ := (List.forall₂_iff_zip.1 (emittedFor_of_struct_mem hitem)).2 hmember
    have htoken : token = .named target := hnamed target hm ht
    subst htoken
    refine ⟨mem_declaredTypes hmodel (List.of_mem_zip hmember).2, fun _ _ _ _ _ hreach => ?_⟩
    -- a member that leads back is boxed, and then it stores nothing in place
    have hboxed := hbox.2 ⟨target, rfl, hname ▸ hreach⟩
    rw [isBoxed_of_inPlace? ht] at hboxed
    cases hboxed
  | @viaAlias model doc type token hmodel hitem ha hm ht =>
    obtain ⟨-, ⟨hshape, rfl⟩ | he⟩ := typeAlias_mem_modelItems ha hitem
    · have htoken := eq_named_of_inPlace? hm ht
      subst htoken
      refine ⟨.viaAlias hmodel hshape ha, fun model' _ _ hmodel' hitem' => ?_⟩
      cases hmodel.symm.trans hmodel'
      rcases (struct_mem_modelItems hitem').2 with ⟨hstruct, -⟩ | ⟨hcomposition, -⟩
      · rw [hshape] at hstruct
        cases hstruct
      · rw [hshape] at hcomposition
        cases hcomposition
    · -- an enumeration is another name for a scalar, which mentions no model
      obtain ⟨p, hp⟩ := hs.of_get? hmodel he
      cases ha.symm.trans hp
      cases hm

/-- A model with members becomes a record and nothing else. -/
theorem modelItems_of_declaredTypes {graph : Graph} {model : Model}
    (h : declaredTypes graph model ≠ []) :
    ∃ members, modelItems graph model = [.struct model.name model.description members] := by
  unfold declaredTypes at h
  unfold modelItems
  cases hshape : model.shape with
  | struct => exact ⟨_, rfl⟩
  | composition =>
    rw [hshape] at h
    have hlen := (emittedFor_embeddedMembers graph model).length_eq
    have hsome : (embeddedMembers graph model).isEmpty = false := by
      cases hmembers : embeddedMembers graph model with
      | nil =>
        rw [hmembers, List.length_nil] at hlen
        exact absurd (List.length_eq_zero_iff.1 hlen.symm) h
      | cons _ _ => rfl
    simp only [hsome, Bool.false_eq_true, if_false]
    exact ⟨_, rfl⟩
  | enumAlias => simp [hshape] at h
  | plainAlias => simp [hshape] at h
  | empty => simp [hshape] at h

/-- The boxes of the code emitted for a graph are enough and none is needless. -/
structure BoxesSoundly (graph : Graph) : Prop where
  /-- Along what is stored in place one never comes back to a record. -/
  sound : ∀ name model, graph.get? name = some model → ∀ doc members,
    Item.struct name doc members ∈ modelItems graph model →
      ¬ Relation.TransGen (Stores graph) name name
  /-- A model with members becomes a record, and a member is boxed exactly if its declared type
  leads back by value. -/
  minimal : ∀ model ∈ graph.toList, declaredTypes graph model ≠ [] →
    ∃ members, modelItems graph model = [.struct model.name model.description members] ∧
      List.Forall₂ (fun member token => member.type.isBoxed = true ↔
        LeadsBack graph model.name token) members (declaredTypes graph model)

/-- **Boxing is sound and minimal** where every enumeration is another name for a scalar. -/
theorem boxing_sound_minimal (graph : Graph) (hs : graph.SoundEnums) : BoxesSoundly graph where
  sound := by
    intro name model hmodel doc members hitem hcycle
    obtain ⟨target, hfirst, hrest⟩ := Relation.TransGen.head'_iff.1 hcycle
    obtain ⟨-, hback⟩ := hfirst.byValue hs
    have hreach : Relation.ReflTransGen (ByValue graph) target name :=
      hrest.lift id fun _ _ hstep => (hstep.byValue hs).1
    exact hback model doc members hmodel hitem hreach
  minimal := by
    intro model _ hmembers
    obtain ⟨members, hitems⟩ := modelItems_of_declaredTypes hmembers
    have hitem : Item.struct model.name model.description members ∈ modelItems graph model := by
      rw [hitems]
      exact List.mem_singleton_self _
    exact ⟨members, hitems, (emittedFor_of_struct_mem hitem).imp fun _ _ h => h.isBoxed_iff⟩

/-- A whole and its part that has the whole again, once as a record and once embedded, and a record
off that cycle that goes through an alias. -/
def wholeAndPart : Graph := .ofList [
  { name := "Part"
    fields := .ofList [("whole", { key := "whole", type := .named "Whole", required := true })] },
  { name := "Whole", children := .ofList ["Part"] },
  { name := "Current", aliasOf := some (.named "Whole") },
  { name := "State", aliasOf := some (.primitive .string), isEnum := true,
    children := .ofList ["Part"] },
  { name := "Shelf"
    fields := .ofList [("current", { key := "current", type := .named "Current" }),
      ("state", { key := "state", type := .named "State" })] }]

/-- The whole and its part go in a circle, and one box on the way keeps them apart. -/
theorem boxing_sound_minimal_wholeAndPart :
    wholeAndPart.SoundEnums ∧ BoxesSoundly wholeAndPart :=
  have hs : wholeAndPart.SoundEnums := by decide +kernel
  ⟨hs, boxing_sound_minimal wholeAndPart hs⟩

end Sdk

end ClientForge
