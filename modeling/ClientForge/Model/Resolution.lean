/-
  What a schema stands for where a value is expected.

  Most schemas have a type of their own.  An inline object or a composition has none until it gets
  a name; the resolution then keeps the schema that needs it, and how many levels of list stand
  around it.  That schema is never larger than the one resolved, which is why building models from
  resolutions ends.
-/
import ClientForge.Document.Basic
import ClientForge.Model.Basic

namespace ClientForge

/-! ## Parts of a schema are smaller -/

namespace Schema

theorem sizeOf_members {schema : Schema} {members : List Schema} {union : Bool}
    (h : schema.composition? = some (members, union)) : sizeOf members < sizeOf schema := by
  cases schema
  simp only [composition?] at h
  split at h
  · simp only [Option.some.injEq, Prod.mk.injEq] at h
    simp only [Schema.mk.sizeOf_spec, Option.some.sizeOf_spec, h.1]
    omega
  · simp only [Option.map_eq_some_iff, Prod.mk.injEq] at h
    obtain ⟨ms, hor, rfl, -⟩ := h
    rcases Option.or_eq_some_iff.1 hor with hone | ⟨hone, hany⟩
    · subst hone
      simp only [Schema.mk.sizeOf_spec, Option.some.sizeOf_spec]
      omega
    · subst hany
      simp only [Schema.mk.sizeOf_spec, Option.some.sizeOf_spec]
      omega

theorem sizeOf_member {schema member : Schema} {members : List Schema} {union : Bool}
    (h : schema.composition? = some (members, union)) (hm : member ∈ members) :
    sizeOf member < sizeOf schema :=
  Nat.lt_trans (List.sizeOf_lt_of_mem hm) (sizeOf_members h)

theorem sizeOf_items {schema item : Schema} (h : schema.items = some item) :
    sizeOf item < sizeOf schema := by
  cases schema
  simp only at h
  subst h
  simp only [Schema.mk.sizeOf_spec, Option.some.sizeOf_spec]
  omega

theorem sizeOf_additional {schema value : Schema} (h : schema.additional = some (.schema value)) :
    sizeOf value < sizeOf schema := by
  cases schema
  simp only at h
  subst h
  simp only [Schema.mk.sizeOf_spec, Option.some.sizeOf_spec, Additional.schema.sizeOf_spec]
  omega

theorem sizeOf_ownProperties (schema : Schema) :
    sizeOf schema.ownProperties < sizeOf schema := by
  cases schema with
  | mk type reference title description properties =>
    cases properties <;>
      simp only [ownProperties, Schema.mk.sizeOf_spec, Option.some.sizeOf_spec,
        Option.none.sizeOf_spec, Option.getD_some, Option.getD_none, List.nil.sizeOf_spec] <;>
      omega

end Schema

/-! ## Resolution -/

/-- What a schema stands for as a value. -/
inductive Resolution where
  /-- A type of its own. -/
  | type (token : TypeToken)
  /-- A schema that needs a name, inside that many levels of list. -/
  | anonymous (schema : Schema) (depth : Nat)
deriving Inhabited

namespace Resolution

/-- Whether a name is needed. -/
def isAnonymous : Resolution → Bool
  | type _ => false
  | anonymous .. => true

/-- The resolution of a list whose items resolve so. -/
def inArray : Resolution → Resolution
  | type token => type (.array token)
  | anonymous schema depth => anonymous schema (depth + 1)

/-- The type of the values of a map that resolve so; what needs a name stays untyped. -/
def mapValue : Resolution → TypeToken
  | type token => token
  | anonymous .. => .any

theorem anonymous_of_inArray {r : Resolution} {inner : Schema} {depth : Nat}
    (h : r.inArray = .anonymous inner depth) : ∃ d, r = .anonymous inner d := by
  cases r with
  | type token => cases h
  | anonymous schema d => exact ⟨d, by cases h; rfl⟩

end Resolution

namespace Schema

/-- The type that a reference names. -/
def referencedType (reference : String) : String :=
  Naming.typeName (Naming.referencedKey reference)

/-- Whether the schema, as a member of a composition, has a shape worth a model. -/
def isShaped (schema : Schema) : Bool :=
  schema.reference.isSome || schema.hasProperties || schema.composition?.isSome

/-- The type of a schema without properties that is no composition and no list. -/
def scalarToken (schema : Schema) (type : String) : TypeToken :=
  match Primitive.ofSchema? type schema.format with
  | some p => .primitive p
  | none => .any

/-- What the schema stands for as a value.  A reference without a shape of its own is the type it
names; a composition with just one member that is not null is that member. -/
def resolve (schema : Schema) : Resolution :=
  match _hc : schema.composition? with
  | some (members, _) =>
    if schema.hasProperties then .anonymous schema 0
    else match _hs : members.filter (!·.isNull) with
      | [single] => resolve single
      | shaped => if shaped.any isShaped then .anonymous schema 0 else .type .any
  | none =>
    if schema.hasProperties then .anonymous schema 0
    else match schema.reference with
      | some reference => .type (.named (referencedType reference))
      | none =>
        let map : TypeToken := .map <| match _h : schema.additional with
          | some (.schema value) => (resolve value).mapValue
          | _ => .any
        match schema.primaryType? with
        | some type =>
          if type = "array" then
            match _h : schema.items with
            | some item => (resolve item).inArray
            | none => .type (.array .any)
          else if type = "object" then .type map
          else .type (schema.scalarToken type)
        | none => .type (if schema.additional.isSome then map else .any)
termination_by schema
decreasing_by
  · have : single ∈ members.filter (!·.isNull) := by rw [_hs]; exact List.mem_singleton_self _
    exact sizeOf_member _hc (List.mem_filter.1 this).1
  · exact sizeOf_additional _h
  · exact sizeOf_items _h

/-- The type of a map with the schema's additional members as values. -/
def mapToken (schema : Schema) : TypeToken :=
  .map <| match schema.additional with
    | some (.schema value) => value.resolve.mapValue
    | _ => .any

/-- **A resolution never grows:** the schema that needs a name is no larger than the one resolved. -/
theorem sizeOf_resolve {schema inner : Schema} {depth : Nat}
    (h : schema.resolve = .anonymous inner depth) : sizeOf inner ≤ sizeOf schema := by
  rw [resolve] at h
  split at h
  · rename_i members union hc
    split at h
    · cases h; exact Nat.le_refl _
    · split at h
      · rename_i single hs
        have hm : single ∈ members.filter (!·.isNull) := by rw [hs]; exact List.mem_singleton_self _
        have hlt := sizeOf_member hc (List.mem_filter.1 hm).1
        exact Nat.le_of_lt (Nat.lt_of_le_of_lt (sizeOf_resolve h) hlt)
      · split at h <;> cases h
        exact Nat.le_refl _
  · split at h
    · cases h; exact Nat.le_refl _
    · split at h
      · cases h
      · dsimp only at h
        split at h
        · split at h
          · split at h
            · rename_i item hi
              obtain ⟨d, hd⟩ := Resolution.anonymous_of_inArray h
              have hlt := sizeOf_items hi
              exact Nat.le_of_lt (Nat.lt_of_le_of_lt (sizeOf_resolve hd) hlt)
            · cases h
          · split at h <;> cases h
        · cases h
termination_by schema
decreasing_by all_goals exact hlt

end Schema

end ClientForge
