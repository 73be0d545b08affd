/-
  What a schema resolves to, branch by branch.

  As a value a schema is a type of its own — a scalar, a list, a map, a reference to a component — or
  it has a shape that must be given a name first, with the number of lists that stand around it.  A
  resolution finds out which, and the schema that the name is for.  It looks at a few parts of the
  schema in a fixed order and asks at most ONE of them what it stands for:

  * properties come first: an object needs a name, composition or not;
  * then compositions: with just one member that is not null the schema is that member, and with
    more it needs a name as soon as one of them has a shape;
  * then a reference, then the type that is written down, with the items of a list asked in turn;
  * and last the further values, if an object or nothing at all is written down.

  Its equations stand here, one for each of these, and the one induction along its calls
  (`Schema.resolve_induct`).  Two branches of the code reach the same outcome, as a map may be called
  an object or have no type at all; in the induction they are one case.  What is to be known of every
  resolution is shown case by case, and no later proof opens the recursion again.
-/
import ClientForge.Model.Resolution

namespace ClientForge

namespace Schema

variable {schema : Schema} {members : List Schema} {union : Bool}

/-! ## The equations -/

/-- An object with properties needs a name, composition or not. -/
theorem resolve_of_properties (hp : schema.hasProperties = true) :
    schema.resolve = .anonymous schema 0 := by
  rw [resolve]
  split <;> rw [if_pos hp]

/-- What a schema stands for that is no composition and lists no properties. -/
theorem resolve_of_simple (hc : schema.composition? = none) (hp : schema.hasProperties = false) :
    schema.resolve = match schema.reference with
      | some reference => .type (.named (referencedType reference))
      | none => match schema.primaryType? with
        | some type =>
          if type = "array" then match schema.items with
            | some item => item.resolve.inArray
            | none => .type (.array .any)
          else if type = "object" then .type schema.mapToken
          else .type (schema.scalarToken type)
        | none => .type (if schema.additional.isSome then schema.mapToken else .any) := by
  rw [resolve]
  split
  · rename_i hc'
    cases hc.symm.trans hc'
  · rw [hp, if_neg Bool.false_ne_true, mapToken]
    rcases schema.items with _ | item <;> rcases schema.additional with _ | _ | value <;> rfl

/-- A composition without properties of its own looks at its members that are not null. -/
theorem resolve_of_composed (hc : schema.composition? = some (members, union))
    (hp : schema.hasProperties = false) :
    schema.resolve = match members.filter (!·.isNull) with
      | [single] => single.resolve
      | shaped => if shaped.any isShaped then .anonymous schema 0 else .type .any := by
  rw [resolve]
  split
  · rename_i hc'
    cases hc.symm.trans hc'
    rw [hp, if_neg Bool.false_ne_true]
    split <;> rename_i hmembers <;> simp [hmembers]
  · rename_i hc'
    cases hc.symm.trans hc'

/-- One of just one schema that is not null. -/
theorem resolve_of_single {single : Schema} (hc : schema.composition? = some (members, union))
    (hp : schema.hasProperties = false) (hsingle : members.filter (!·.isNull) = [single]) :
    schema.resolve = single.resolve := by
  rw [resolve_of_composed hc hp, hsingle]

/-- One of several needs a name if a member has a shape, and is any value otherwise. -/
theorem resolve_of_several (hc : schema.composition? = some (members, union))
    (hp : schema.hasProperties = false)
    (hseveral : ∀ single, members.filter (!·.isNull) ≠ [single]) :
    schema.resolve =
      if (members.filter (!·.isNull)).any isShaped then .anonymous schema 0 else .type .any := by
  rw [resolve_of_composed hc hp]
  split
  · rename_i hsingle
    exact absurd hsingle (hseveral _)
  · rfl

/-- A reference without a shape of its own is the type that it names. -/
theorem resolve_of_reference {reference : String} (h : schema.reference = some reference)
    (hc : schema.composition? = none) (hp : schema.hasProperties = false) :
    schema.resolve = .type (.named (referencedType reference)) := by
  rw [resolve_of_simple hc hp, h]

/-! ## The induction -/

/-- **Induction along a resolution:** what holds of the outcome of every branch, given that it holds
of the part that the branch asks, holds of every resolution. -/
theorem resolve_induct {motive : Schema → Resolution → Prop}
    (own : ∀ {schema : Schema}, schema.hasProperties = true ∨ schema.composition?.isSome = true →
      motive schema (.anonymous schema 0))
    (single : ∀ {schema part : Schema} {members : List Schema} {union : Bool},
      schema.composition? = some (members, union) → schema.hasProperties = false →
      members.filter (!·.isNull) = [part] → motive part part.resolve →
      motive schema part.resolve)
    (reference : ∀ {schema : Schema} {reference : String}, schema.composition? = none →
      schema.hasProperties = false → schema.reference = some reference →
      motive schema (.type (.named (referencedType reference))))
    (items : ∀ {schema item : Schema}, schema.composition? = none →
      schema.hasProperties = false → schema.reference = none →
      schema.primaryType? = some "array" → schema.items = some item →
      motive item item.resolve → motive schema item.resolve.inArray)
    (values : ∀ {schema value : Schema}, schema.composition? = none →
      schema.hasProperties = false → schema.reference = none →
      schema.primaryType?.getD "object" = "object" →
      schema.additional = some (.schema value) → motive value value.resolve →
      motive schema (.type (.map value.resolve.mapValue)))
    (scalar : ∀ {schema : Schema} {type : String}, schema.composition? = none →
      schema.hasProperties = false → schema.reference = none →
      schema.primaryType? = some type → motive schema (.type (schema.scalarToken type)))
    (untyped : ∀ {schema : Schema} {token : TypeToken},
      token = .any ∨ token = .array .any ∨ token = .map .any → motive schema (.type token))
    (schema : Schema) : motive schema schema.resolve := by
  induction schema using (measure fun schema : Schema => sizeOf schema).wf.induction with
  | h schema ih =>
  cases hp : schema.hasProperties with
  | true =>
    rw [resolve_of_properties hp]
    exact own (Or.inl hp)
  | false => cases hc : schema.composition? with
    | some composition =>
      obtain ⟨members, union⟩ := composition
      by_cases hsingle : ∃ part, members.filter (!·.isNull) = [part]
      · obtain ⟨part, hpart⟩ := hsingle
        -- the one member left is asked, and it is smaller than the composition
        have hmem : part ∈ members.filter (!·.isNull) := hpart ▸ List.mem_singleton_self part
        rw [resolve_of_single hc hp hpart]
        exact single hc hp hpart (ih part (sizeOf_member hc (List.mem_filter.1 hmem).1))
      · rw [resolve_of_several hc hp (not_exists.1 hsingle)]
        split
        · exact own (Or.inr (by rw [hc]; rfl))
        · exact untyped (Or.inl rfl)
    | none =>
      -- the type of a map is asked for in two branches
      have hmap (htype : schema.primaryType?.getD "object" = "object")
          (href : schema.reference = none) : motive schema (.type schema.mapToken) := by
        unfold mapToken
        split
        · rename_i value hadditional
          exact values hc hp href htype hadditional (ih value (sizeOf_additional hadditional))
        · exact untyped (Or.inr (Or.inr rfl))
      rw [resolve_of_simple hc hp]
      cases href : schema.reference with
      | some name => exact reference hc hp href
      | none => cases htype : schema.primaryType? with
        | none =>
          dsimp only
          split
          · exact hmap (by rw [htype]; rfl) href
          · exact untyped (Or.inl rfl)
        | some type =>
          dsimp only
          split
          · rename_i harray
            subst harray
            cases hitems : schema.items with
            | some item => exact items hc hp href htype hitems (ih item (sizeOf_items hitems))
            | none => exact untyped (Or.inr (Or.inl rfl))
          · split
            · rename_i hobject
              exact hmap (by rw [htype, hobject]; rfl) href
            · exact scalar hc hp href htype

end Schema

end ClientForge
