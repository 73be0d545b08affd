/-
  A reference as a type, as a component and as a member of a composition.

  A schema may have a reference, and something beside it.  Where its values are typed — as a property,
  an item, a parameter — a schema with a reference, no properties and no parts to compose is the type
  that the reference names, whatever stands beside the reference.

  Where a model is built of the schema it is read otherwise.  There only a schema that is nothing but
  a reference (`Schema.isBareReference`) is read as what the reference names, and that test looks at
  everything beside the reference: a type, literals, further values, even an empty map of properties.
  Any other schema is built of what stands beside the reference.

  1. **As a component** such a schema gets the model of a scalar, a map or nothing in particular.  A
     list is the one exception: its items are bound as if the whole schema were an item, so the
     reference is found after all (`buildModel_standsFor_iff`).
  2. **As a member of a composition** it is passed over, since it is neither a reference nor inline:
     what is built is the same without it (`buildMembers_passedOver`), and alone it leaves the
     composition without children.

  So the three readings agree exactly if the schema is nothing but a reference
  (`Schema.readings_agree_iff`), and one word beside it is enough for them to differ.
-/
import ClientForge.Proofs.Hoisting.Founded
import ClientForge.Proofs.Hoisting.Building

namespace ClientForge

/-! ## Members of a composition -/

section Members

variable {schema member : Schema} {members : List Schema} {union : Bool} {reference : String}

/-- A composition is more than a reference. -/
theorem Schema.bareReference?_of_composition (hc : schema.composition? = some (members, union)) :
    schema.bareReference? = none := by
  cases hb : schema.bareReference? with
  | none => rfl
  | some reference => cases hc.symm.trans (simple_of_bareReference hb).1

/-- A member that is nothing but a reference names a child. -/
theorem mem_buildMembers_of_reference (hmem : member ∈ members)
    (hb : member.bareReference? = some reference) (wished : Nat → String) (index : Nat)
    (names : Names) :
    Schema.referencedType reference ∈ (buildMembers wished index members names).result := by
  induction members generalizing index names with
  | nil => cases hmem
  | cons first rest ih =>
    rcases List.mem_cons.1 hmem with rfl | hmem
    · rw [buildMembers_of_reference hb]
      exact List.mem_cons_self
    · cases hfirst : first.bareReference? with
      | some other =>
        rw [buildMembers_of_reference hfirst]
        exact List.mem_cons_of_mem _ (ih hmem index names)
      | none => cases hneeds : first.hasProperties || first.composition?.isSome with
        | true =>
          rw [buildMembers_of_inline hfirst hneeds]
          exact List.mem_cons_of_mem _ (ih hmem _ _)
        | false =>
          rw [buildMembers_of_other hfirst hneeds]
          exact ih hmem index names

/-- **A member that is neither a reference nor inline is passed over:** what is built is the same
without it. -/
theorem buildMembers_passedOver (hb : member.bareReference? = none) (hi : member.isInline = false)
    (wished : Nat → String) (index : Nat) (before after : List Schema) (names : Names) :
    buildMembers wished index (before ++ member :: after) names =
      buildMembers wished index (before ++ after) names := by
  induction before generalizing index names with
  | nil =>
    rw [Schema.isInline_iff hb] at hi
    exact buildMembers_of_other hb hi
  | cons first rest ih =>
    rw [List.cons_append, List.cons_append, buildMembers, buildMembers]
    simp only [ih]

/-- What the members give are children of the composition. -/
theorem mem_children_of_mem_members {child : String}
    (hc : schema.composition? = some (members, union))
    (h : ∀ wished index names, child ∈ (buildMembers wished index members names).result)
    (name : String) (generated : Bool) (names : Names) :
    child ∈ (buildModel name generated schema names).result.children := by
  rw [buildModel_of_composed (Schema.bareReference?_of_composition hc) hc]
  dsimp only
  split
  · exact Names.mem_ofList.2 (List.mem_append_left _ (h _ _ _))
  · exact Names.mem_ofList.2 (h _ _ _)

/-- Alone in a composition, it leaves that one without children. -/
theorem children_of_alone (hb : member.bareReference? = none) (hi : member.isInline = false)
    (name : String) (generated : Bool) (names : Names) :
    (buildModel name generated { allOf := some [member] } names).result.children = .empty := by
  have hc : ({ allOf := some [member] } : Schema).composition? = some ([member], false) := rfl
  have hparts (wished : Nat → String) :
      buildMembers wished 1 [member] names = ⟨[], [], names⟩ := by
    have hdropped := buildMembers_passedOver hb hi wished 1 [] [] names
    rw [List.nil_append, List.nil_append] at hdropped
    rw [hdropped, buildMembers]
  rw [buildModel_of_composition (Schema.bareReference?_of_composition hc) hc rfl]
  dsimp only
  rw [hparts]
  rfl

end Members

/-! ## Components -/

/-- `model.StandsFor name` — the model is made of the one with that name: it composes it, or is
another name for it. -/
def Model.StandsFor (model : Model) (name : String) : Prop :=
  (model.isEnum = false ∧ name ∈ model.children) ∨ model.aliasOf = some (.named name)

/-- What a model is made of it refers to. -/
theorem Model.StandsFor.refersTo {model : Model} {name : String} (h : model.StandsFor name) :
    model.RefersTo name := by
  rcases h with ⟨henum, hmem⟩ | halias
  · exact .child henum hmem
  · exact .viaAlias _ halias (.named name)

section Components

variable {schema : Schema} {reference : String}

/-- **As a component** a schema that is the type of a reference stands for it exactly if it is
nothing but the reference, or a list without literals: that is another name for the type of its
values, and the items beside the reference are not looked at. -/
theorem buildModel_standsFor_iff (href : schema.reference = some reference)
    (hc : schema.composition? = none) (hp : schema.hasProperties = false) (name : String)
    (generated : Bool) (names : Names) :
    (buildModel name generated schema names).result.StandsFor (Schema.referencedType reference) ↔
      schema.isBareReference = true ∨
        (schema.primaryType? = some "array" ∧ schema.literals = none) := by
  have hshapeless : ¬ (Model.unshaped name generated schema).RefersTo
      (Schema.referencedType reference) := Model.not_refersTo_shapeless _ _ _
  cases hb : schema.bareReference? with
  | some other =>
    obtain ⟨hbare, hother⟩ := Schema.bareReference?_eq_some_iff.1 hb
    cases href.symm.trans hother
    rw [buildModel_of_reference hb]
    exact iff_of_true (Or.inl ⟨rfl, Names.mem_ofList.2 (List.mem_singleton_self _)⟩) (Or.inl hbare)
  | none =>
    have hbare : ¬ schema.isBareReference = true := by
      rw [Schema.bareReference?_eq_none_iff.1 hb]
      exact Bool.false_ne_true
    rw [or_iff_right hbare]
    cases hs : schema.isScalar || schema.literals.isSome with
    | true =>
      rw [buildModel_of_scalar hb hc hp hs]
      refine iff_of_false (fun h => hshapeless (Model.refersTo_ofScalar rfl h.refersTo)) ?_
      rintro ⟨harray, hliterals⟩
      simp [Schema.isScalar, harray, hliterals] at hs
    | false =>
      have hliterals : schema.literals = none := by
        rw [Bool.or_eq_false_iff] at hs
        exact Option.isNone_iff_eq_none.1 (Option.isSome_eq_false_iff.1 hs.2)
      by_cases harray : schema.primaryType? = some "array"
      · have htype : (bindSchema (name ++ "Item") schema names).result =
            .named (Schema.referencedType reference) := by
          rw [bindSchema_of_type (Schema.resolve_of_reference href hc hp)]
        rw [buildModel_of_array hb hc hp hs harray]
        exact iff_of_true (Or.inr (congrArg some htype)) ⟨harray, hliterals⟩
      · refine iff_of_false ?_ fun h => harray h.1
        cases hadditional : schema.additional with
        | none =>
          rw [buildModel_of_plain hb hc hp hs harray (by simp [hadditional])]
          exact fun h => hshapeless h.refersTo
        | some additional => cases additional with
          | allowed b =>
            rw [buildModel_of_plain hb hc hp hs harray (by simp [hadditional])]
            exact fun h => hshapeless h.refersTo
          | schema value =>
            rw [buildModel_of_map hb hc hp hs harray hadditional]
            -- a map of something is not the thing itself
            rintro (⟨-, hmem⟩ | halias)
            · exact Names.not_mem_empty hmem
            · cases halias

end Components

/-! ## The readings -/

section Readings

variable {schema : Schema} {reference : String}

/-- **The readings of a reference.**  Of a schema that is the type of its reference, a component
stands for this type exactly if it is nothing but the reference or a list without literals, and
every composition that has it as a member gets the type as a child exactly if it is nothing but the
reference.  In all other compositions it is passed over. -/
theorem Schema.readings_agree_iff (href : schema.reference = some reference)
    (hc : schema.composition? = none) (hp : schema.hasProperties = false) :
    schema.resolve = .type (.named (referencedType reference)) ∧
    (∀ name generated names,
      (buildModel name generated schema names).result.StandsFor (referencedType reference) ↔
        schema.isBareReference = true ∨
          (schema.primaryType? = some "array" ∧ schema.literals = none)) ∧
    ((∀ (composition : Schema) members union,
      composition.composition? = some (members, union) → schema ∈ members →
        ∀ name generated names, referencedType reference ∈
          (buildModel name generated composition names).result.children) ↔
      schema.isBareReference = true) ∧
    (schema.isBareReference = false → ∀ wished index before after names,
      buildMembers wished index (before ++ schema :: after) names =
        buildMembers wished index (before ++ after) names) := by
  have hinline : schema.isInline = false := by simp [isInline, hc, hp]
  refine ⟨resolve_of_reference href hc hp, buildModel_standsFor_iff href hc hp, ?_, ?_⟩
  · -- The third statement speaks of every composition with the schema as a member; one with this
    -- member alone is enough to refute it.
    constructor
    · intro h
      cases hbool : schema.isBareReference with
      | true => rfl
      | false =>
        have hbare := bareReference?_eq_none_iff.2 hbool
        have hchild := h { allOf := some [schema] } [schema] false rfl
          (List.mem_singleton_self _) "" false .empty
        rw [children_of_alone hbare hinline] at hchild
        exact (Names.not_mem_empty hchild).elim
    · -- For the converse the builder of members files the reference whatever stands around it.
      intro hbare composition members union hcomposition hmem
      have hb : schema.bareReference? = some reference :=
        bareReference?_eq_some_iff.2 ⟨hbare, href⟩
      exact mem_children_of_mem_members hcomposition fun wished index names =>
        mem_buildMembers_of_reference hmem hb wished index names
  · intro hbare
    exact buildMembers_passedOver (bareReference?_eq_none_iff.2 hbare) hinline

/-- A reference to `Node` that also says that nodes are objects. -/
def typedReference : Schema where
  type := some (.single "object")
  reference := some "#/components/schemas/Node"

/-- As a property it is a node, but neither as a component nor as a member. -/
theorem Schema.readings_agree_iff_typed :
    typedReference.resolve = .type (.named (referencedType "#/components/schemas/Node")) ∧
    ¬ (buildModel "Holder" false typedReference .empty).result.StandsFor
      (referencedType "#/components/schemas/Node") ∧
    buildMembers (memberName "Holder" 1) 1 [typedReference] .empty =
      buildMembers (memberName "Holder" 1) 1 [] .empty := by
  have href : typedReference.reference = some "#/components/schemas/Node" := rfl
  obtain ⟨hresolve, hcomponent, -, hdropped⟩ := readings_agree_iff href rfl rfl
  refine ⟨hresolve, fun h => ?_, hdropped rfl (memberName "Holder" 1) 1 [] [] .empty⟩
  have hneither := (hcomponent "Holder" false .empty).1 h
  revert hneither
  decide

end Readings

end ClientForge
