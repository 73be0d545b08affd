/-
  Models from schemas.

  The model of a schema takes a name that is already claimed.  Inline objects and compositions
  found inside become models of their own: each claims a name made from its owner's, so it never
  takes one that is in use.  What a building step gives is its result, the models hoisted out on
  the way in the order in which they were found, and the names taken by then.
-/
import ClientForge.Model.Resolution
import ClientForge.Naming.Claims

namespace ClientForge

namespace Schema

theorem sizeOf_resolve_lt {schema inner : Schema} {depth : Nat} (hc : schema.composition? = none)
    (hp : schema.hasProperties = false) (h : schema.resolve = .anonymous inner depth) :
    sizeOf inner < sizeOf schema := by
  rw [resolve] at h
  split at h
  · rename_i hsome
    simp [hc] at hsome
  · rw [hp] at h
    simp only [Bool.false_eq_true, if_false] at h
    split at h
    · cases h
    · split at h
      · split at h
        · split at h
          · rename_i item hi
            obtain ⟨d, hd⟩ := Resolution.anonymous_of_inArray h
            exact Nat.lt_of_le_of_lt (sizeOf_resolve hd) (sizeOf_items hi)
          · cases h
        · split at h <;> cases h
      · cases h

/-- Whether a member of a composition is an inline object or composition. -/
def isInline (schema : Schema) : Bool :=
  schema.bareReference?.isNone && (schema.hasProperties || schema.composition?.isSome)

/-- The scalar that a schema with a scalar type or with literals is another name for. -/
def aliasToken (schema : Schema) : TypeToken :=
  match schema.primaryType?.bind fun type => Primitive.ofSchema? type schema.format with
  | some p => .primitive p
  | none => if schema.literals.isSome then .primitive .string else .any

/-- The texts of the literals that an enumeration allows. -/
def literalTexts (schema : Schema) : List String :=
  (schema.literals.getD []).filterMap Literal.text?

end Schema

/-! ## Pieces of a model -/

/-- What a building step gives. -/
structure Built (α : Type) where
  result : α
  /-- The models hoisted out on the way. -/
  hoisted : List Model
  /-- The names taken by then. -/
  names : Names

namespace Model

/-- The model with the fields of a record; a field that is just a reference also names a child. -/
def withFields (model : Model) (fields : List (Field × Option String)) : Model :=
  { model with
    fields := ((fields.map Prod.fst).foldl withField model).fields
    children := model.children.insertAll (fields.filterMap Prod.snd) }

/-- The fields are put into the table one by one, so the last one of a key counts. -/
theorem fields_withFields (model : Model) (fields : List (Field × Option String)) :
    (model.withFields fields).fields =
      (fields.map Prod.fst).foldl (fun table field => table.insert field.key field)
        model.fields := by
  show ((fields.map Prod.fst).foldl withField model).fields = _
  induction fields.map Prod.fst generalizing model with
  | nil => rfl
  | cons field rest ih => exact ih (model.withField field)

/-- The model as another name for a scalar, restricted to the literals if there are any. -/
def ofScalar (model : Model) (schema : Schema) : Model :=
  { model with
    aliasOf := some schema.aliasToken
    isEnum := schema.literals.isSome
    children := model.children.insertAll schema.literalTexts }

/-- The model as a composition of the children; without a child it is any value. -/
def ofChildren (model : Model) (union : Bool) (children : List String) : Model :=
  { model with
    union := union
    children := .ofList children
    aliasOf := if children.isEmpty then some .any else none }

end Model

/-- The wished-for name of the inline member with that number, of `total` ones. -/
def memberName (owner : String) (total index : Nat) : String :=
  if total = 1 then owner ++ "Fields" else owner ++ "Fields" ++ decimalText index

/-! ## Building -/

mutual

/-- The model of a schema under a name that is already taken. -/
def buildModel (name : String) (generated : Bool) (schema : Schema) (names : Names) :
    Built Model :=
  let model : Model := { name, generated, description := schema.description }
  match schema.bareReference? with
  | some reference =>
    ⟨{ model with children := .ofList [Schema.referencedType reference] }, [], names⟩
  | none =>
    match _hc : schema.composition? with
    | some (members, union) =>
      let own := if schema.hasProperties then 1 else 0
      let total := members.countP Schema.isInline + own
      let parts := buildMembers (memberName name total) 1 members names
      if schema.hasProperties then
        let (ownName, names) := parts.names.claim (memberName name total total)
        let fields := buildFields ownName (schema.required.getD []) schema.ownProperties names
        let ownModel : Model := { name := ownName, generated := true }
        ⟨model.ofChildren union (parts.result ++ [ownName]),
          parts.hoisted ++ fields.hoisted ++ [ownModel.withFields fields.result], fields.names⟩
      else ⟨model.ofChildren union parts.result, parts.hoisted, parts.names⟩
    | none =>
      if _hp : schema.hasProperties then
        let fields := buildFields name (schema.required.getD []) schema.ownProperties names
        ⟨model.withFields fields.result, fields.hoisted, fields.names⟩
      else if schema.isScalar || schema.literals.isSome then ⟨model.ofScalar schema, [], names⟩
      else if schema.primaryType? = some "array" then
        match _hr : schema.resolve with
        | .type token => ⟨{ model with aliasOf := some token }, [], names⟩
        | .anonymous inner depth =>
          let (itemName, names) := names.claim (name ++ "Item")
          let item := buildModel itemName true inner names
          ⟨{ model with aliasOf := some ((TypeToken.named itemName).inArrays depth) },
            item.result :: item.hoisted, item.names⟩
      else match schema.additional with
        | some (.schema _) => ⟨{ model with aliasOf := some schema.mapToken }, [], names⟩
        | _ => ⟨model, [], names⟩
termination_by (sizeOf schema, 0)
decreasing_by
  · exact Prod.Lex.left _ _ (Schema.sizeOf_members _hc)
  · exact Prod.Lex.left _ _ (Schema.sizeOf_ownProperties schema)
  · exact Prod.Lex.left _ _ (Schema.sizeOf_ownProperties schema)
  · exact Prod.Lex.left _ _ (Schema.sizeOf_resolve_lt _hc (by simpa using _hp) _hr)

/-- The type of a value: its own, or that of a model made for it under the preferred name or a
free variant. -/
def bindSchema (preferred : String) (schema : Schema) (names : Names) : Built TypeToken :=
  match _hr : schema.resolve with
  | .type token => ⟨token, [], names⟩
  | .anonymous inner depth =>
    let (name, names) := names.claim preferred
    let built := buildModel name true inner names
    ⟨(TypeToken.named name).inArrays depth, built.result :: built.hoisted, built.names⟩
termination_by (sizeOf schema, 1)
decreasing_by
  have hle := Schema.sizeOf_resolve _hr
  rcases Nat.lt_or_eq_of_le hle with hlt | heq
  · exact Prod.Lex.left _ _ hlt
  · rw [heq]
    exact Prod.Lex.right _ (by decide)

/-- The fields for the properties of an object, each with the child it also names. -/
def buildFields (owner : String) (required : List String) (properties : List (String × Schema))
    (names : Names) : Built (List (Field × Option String)) :=
  match properties with
  | [] => ⟨[], [], names⟩
  | (key, schema) :: rest =>
    let type := bindSchema (Naming.hoistedName owner key) schema names
    let field : Field := {
      key := key
      type := type.result
      description := schema.description
      required := required.contains key }
    let child := if schema.isBareReference then type.result.innermost? else none
    let others := buildFields owner required rest type.names
    ⟨(field, child) :: others.result, type.hoisted ++ others.hoisted, others.names⟩
termination_by (sizeOf properties, 0)
decreasing_by
  · apply Prod.Lex.left
    simp only [List.cons.sizeOf_spec, Prod.mk.sizeOf_spec]
    omega
  · apply Prod.Lex.left
    simp only [List.cons.sizeOf_spec]
    omega

/-- The children for the members of a composition: what a reference names, and a model for each
inline one, numbered from `index`.  Members of any other kind add nothing. -/
def buildMembers (wished : Nat → String) (index : Nat) (members : List Schema) (names : Names) :
    Built (List String) :=
  match members with
  | [] => ⟨[], [], names⟩
  | member :: rest =>
    match member.bareReference? with
    | some reference =>
      let others := buildMembers wished index rest names
      ⟨Schema.referencedType reference :: others.result, others.hoisted, others.names⟩
    | none =>
      if member.hasProperties || member.composition?.isSome then
        let (name, names) := names.claim (wished index)
        let built := buildModel name true member names
        let others := buildMembers wished (index + 1) rest built.names
        ⟨name :: others.result, built.result :: built.hoisted ++ others.hoisted, others.names⟩
      else buildMembers wished index rest names
termination_by (sizeOf members, 0)
decreasing_by
  all_goals
    apply Prod.Lex.left
    simp only [List.cons.sizeOf_spec]
    omega

end

end ClientForge
