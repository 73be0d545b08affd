/-
  Where expanding the aliases of the models' module comes back.

  A record that holds itself is boxed, but an alias has no place for a box: lists and maps of
  components become aliases, and a component that is a list of itself becomes an alias of itself,
  which no compiler can expand.  The question is when that happens.

  What an alias leads to can be said twice, once of the generated module and once of the document.

  * **Of the module** (`Module.LeadsOn`): the alias `a` is declared with a type whose innermost name is
    `b`.  Boxes do not occur here, and any value counts as no name.
  * **Of the document** (`Document.Renames`): the component that the name `a` leads to is another name
    for a type with the name `b` innermost — a scalar, a list, or a map without parts and properties of
    its own.  These rules follow references, items and values in the schemas, and mention neither
    tokens nor models.

  One step of the one is not always one step of the other.  An alias may lead to a model that was made
  up for an inline item, of which the document knows nothing; but such a model leads nowhere further,
  being a record or a composition (`Model.MadeOf.not_leadsOn`), so on a way that comes back there is
  none.  That is the argument by which the two agree on every cycle (`transGen_of_goesOn`): each step
  that is followed by another is a step of both.

  So aliases are well founded exactly if the lists, maps and scalars among the components are
  (`aliases_return_iff`).  The smallest document where they are not is a tree that is the list of its
  branches.
-/
import Mathlib.Logic.Relation
import ClientForge.Proofs.Hoisting.Definitions
import ClientForge.Proofs.Models.Items
import ClientForge.Proofs.Models.WellFormed
import ClientForge.Proofs.Naming.Shape
import ClientForge.Proofs.Pruning.Closed

namespace ClientForge

open ClientForge.Code

/-! ## What an alias leads to -/

/-- `type.Spells name` — the type that stands innermost has the name.  Any JSON value is a type of
another crate and names nothing. -/
inductive Code.Ty.Spells : Ty → String → Prop
  | path {name : String} (h : Ty.path name ≠ .anyValue) : Spells (.path name) name
  | vec {item : Ty} {name : String} (h : Spells item name) : Spells (.vec item) name
  | option {inner : Ty} {name : String} (h : Spells inner name) : Spells (.option inner) name
  | map {value : Ty} {name : String} (h : Spells value name) : Spells (.map value) name

/-- `m.LeadsOn a b` — expanding the alias `a` of the module leads to the name `b`. -/
def Code.Module.LeadsOn (m : Module) (a b : String) : Prop :=
  ∃ type doc, .item (.typeAlias a type doc) ∈ m.decls ∧ type.Spells b

/-! ## What a schema leads to -/

namespace Schema

/-- The schema composes nothing and lists no properties. -/
structure Shapeless (schema : Schema) : Prop where
  composition : schema.composition? = none
  properties : schema.hasProperties = false

/-- `schema.Spells name` — the type of a value of the schema has the name innermost: a reference
names the type of its component, a scalar the type that holds it, a list and a map what their
items and values do, and a composition of just one schema what that schema does. -/
inductive Spells : Schema → String → Prop
  | reference {schema : Schema} {reference : String} (h : schema.Shapeless)
      (href : schema.reference = some reference) : Spells schema (referencedType reference)
  | scalar {schema : Schema} {type : String} {p : Primitive} (h : schema.Shapeless)
      (href : schema.reference = none) (htype : schema.primaryType? = some type)
      (hp : Primitive.ofSchema? type schema.format = some p) : Spells schema p.rustName
  | items {schema item : Schema} {name : String} (h : schema.Shapeless)
      (href : schema.reference = none) (htype : schema.primaryType? = some "array")
      (hitems : schema.items = some item) (hitem : Spells item name) : Spells schema name
  | values {schema value : Schema} {name : String} (h : schema.Shapeless)
      (href : schema.reference = none) (htype : schema.primaryType?.getD "object" = "object")
      (hadditional : schema.additional = some (.schema value)) (hvalue : Spells value name) :
      Spells schema name
  | single {schema single : Schema} {members : List Schema} {union : Bool} {name : String}
      (hc : schema.composition? = some (members, union)) (hp : schema.hasProperties = false)
      (hsingle : members.filter (!·.isNull) = [single]) (h : Spells single name) :
      Spells schema name

/-- Whether the schema is built as a scalar or as an enumeration. -/
def isPlain (schema : Schema) : Bool := schema.isScalar || schema.literals.isSome

/-- `schema.Renames name` — as a component the schema is another name for a type with that name
innermost: it is a scalar with no texts listed, a list, or a map. -/
inductive Renames (schema : Schema) (name : String) : Prop
  | scalar {p : Primitive} (hb : schema.bareReference? = none) (h : schema.Shapeless)
      (hs : schema.isPlain = true)
      (hp : (schema.primaryType?.bind (Primitive.ofSchema? · schema.format)) = some p)
      (htexts : schema.literals.isSome = true → p ≠ .string) (hname : p.rustName = name)
  | list (hb : schema.bareReference? = none) (h : schema.Shapeless) (hs : schema.isPlain = false)
      (htype : schema.primaryType? = some "array") (hvalue : schema.Spells name)
  | map {value : Schema} (hb : schema.bareReference? = none) (h : schema.Shapeless)
      (hs : schema.isPlain = false) (htype : schema.primaryType? ≠ some "array")
      (hadditional : schema.additional = some (.schema value)) (hvalue : value.Spells name)

end Schema

/-- `doc.Renames a b` — the component that the name `a` leads to is another name for a type with the
name `b` innermost. -/
def Document.Renames (doc : Document) (a b : String) : Prop :=
  ∃ schema, doc.foremost? a = some schema ∧ schema.Renames b

/-! ## Tokens -/

/-- `token.Spells name` — the type of the token has that name innermost, if the models hold it. -/
inductive TypeToken.Spells : TypeToken → String → Prop
  | primitive (p : Primitive) : Spells (.primitive p) p.rustName
  | named (name : String) : Spells (.named name) name
  | array {item : TypeToken} {name : String} (h : Spells item name) : Spells (.array item) name
  | map {value : TypeToken} {name : String} (h : Spells value name) : Spells (.map value) name

/-- Any value spells no name. -/
theorem TypeToken.not_spells_any {name : String} : ¬ TypeToken.any.Spells name := nofun

/-- Lists around a name spell that name. -/
theorem TypeToken.eq_of_spells_inArrays {name target : String} {depth : Nat}
    (h : ((TypeToken.named name).inArrays depth).Spells target) : target = name := by
  induction depth with
  | zero =>
    cases h
    rfl
  | succ depth ih =>
    cases h with
    | array h => exact ih h

namespace Sdk

/-- The type of any value spells no name. -/
theorem not_spells_anyValue {name : String} : ¬ Ty.anyValue.Spells name := by
  intro h
  cases h with
  | path h => exact h rfl

/-- What the type of a token spells, the token does. -/
theorem spells_of_typeOf {graph : Graph} {token : TypeToken} {name : String}
    (h : (typeOf graph token).Spells name) : token.Spells name := by
  induction token with
  | primitive p =>
    cases h
    exact .primitive p
  | named other =>
    unfold typeOf at h
    split at h
    · cases h
      exact .named name
    · exact absurd h not_spells_anyValue
  | array item ih => cases h with
    | vec h => exact .array (ih h)
  | map value ih => cases h with
    | map h => exact .map (ih h)
  | any => exact absurd h not_spells_anyValue

/-- The type of a token has the name that it spells, if that is the name of a model. -/
theorem typeOf_spells {graph : Graph} {token : TypeToken} {name : String}
    (hmodel : graph.contains name = true) (hname : Ty.path name ≠ .anyValue)
    (h : token.Spells name) : (typeOf graph token).Spells name := by
  induction h with
  | primitive p => exact .path hname
  | named name =>
    rw [typeOf, if_pos hmodel]
    exact .path hname
  | array _ ih => exact .vec (ih hmodel hname)
  | map _ ih => exact .map (ih hmodel hname)

end Sdk

/-! ## Schemas and their tokens -/

namespace Schema

/-- A map names what its values do. -/
theorem spells_mapToken_iff {schema : Schema} {name : String} :
    schema.mapToken.Spells name ↔
      ∃ value, schema.additional = some (.schema value) ∧
        ∃ token, value.resolve = .type token ∧ token.Spells name := by
  unfold mapToken
  constructor
  · -- A map has a token behind it exactly when its values resolve to one; an anonymous value gives
    -- `any`, which spells no name.
    intro h
    cases h with
    | map h =>
      split at h
      · rename_i value hadditional
        cases hr : value.resolve with
        | type token =>
          rw [hr] at h
          exact ⟨value, hadditional, token, hr, h⟩
        | anonymous inner depth =>
          rw [hr] at h
          exact absurd h TypeToken.not_spells_any
      · exact absurd h TypeToken.not_spells_any
  · rintro ⟨value, hadditional, token, hr, h⟩
    rw [hadditional]
    refine .map ?_
    simp only [hr]
    exact h

/-- What a schema spells, its type does: the rules follow the branches of the resolution. -/
theorem exists_of_spells {schema : Schema} {name : String} (h : schema.Spells name) :
    ∃ token, schema.resolve = .type token ∧ token.Spells name := by
  -- One case for each way in which a schema can spell a name, with the branch of the resolution it
  -- takes.
  induction h with
  | reference h href =>
    refine ⟨_, ?_, .named _⟩
    rw [resolve_of_simple h.composition h.properties, href]
  | @scalar schema type p h href htype hp =>
    -- A scalar's type is neither of the two with items or values, so the scalar branch is reached.
    have harray : type ≠ "array" := by
      rintro rfl
      cases hp
    have hobject : type ≠ "object" := by
      rintro rfl
      cases hp
    refine ⟨.primitive p, ?_, .primitive p⟩
    rw [resolve_of_simple h.composition h.properties, href, htype]
    simp only [if_neg harray, if_neg hobject, scalarToken, hp]
  | items h href htype hitems _ ih =>
    obtain ⟨token, hr, hs⟩ := ih
    refine ⟨.array token, ?_, .array hs⟩
    rw [resolve_of_simple h.composition h.properties, href, htype]
    simp only [hitems, hr, if_true, Resolution.inArray]
  | @values schema value name h href htype hadditional _ ih =>
    refine ⟨schema.mapToken, ?_, spells_mapToken_iff.2 ⟨value, hadditional, ih⟩⟩
    rw [resolve_of_simple h.composition h.properties, href]
    cases hprimary : schema.primaryType? with
    | none => simp [hadditional]
    | some type =>
      rw [hprimary] at htype
      obtain rfl : type = "object" := htype
      simp
  | single hc hp hsingle _ ih =>
    rw [resolve_of_single hc hp hsingle]
    exact ih

/-- The way back goes along the branches of the resolution, one for each way to spell a name. -/
theorem spells_of_resolve {schema : Schema} {token : TypeToken} {name : String}
    (hr : schema.resolve = .type token) (hs : token.Spells name) : schema.Spells name := by
  -- The same cases as in the other direction, this time from the recursion of the resolution
  -- itself.
  refine resolve_induct
    (motive := fun schema resolution => ∀ token, resolution = .type token →
      token.Spells name → schema.Spells name)
    ?own ?single ?reference ?items ?values ?scalar ?untyped schema token hr hs
  case own => rintro schema _ _ ⟨⟩
  case single =>
    intro schema part members union hc hp hpart ih token hr hs
    exact .single hc hp hpart (ih token hr hs)
  case reference =>
    rintro schema reference hc hp href _ ⟨⟩ hs
    cases hs
    exact .reference ⟨hc, hp⟩ href
  case items =>
    intro schema item hc hp href htype hitems ih token hr hs
    cases hitem : item.resolve with
    -- Items without a name of their own give no token, so the list is left to its hoisted model.
    | anonymous inner depth =>
      rw [hitem] at hr
      cases hr
    | type inner =>
      rw [hitem] at hr
      cases hr
      cases hs with
      | array hs => exact .items ⟨hc, hp⟩ href htype hitems (ih inner hitem hs)
  case values =>
    rintro schema value hc hp href htype hadditional ih _ ⟨⟩ hs
    cases hs with
    | map hs =>
      cases hvalue : value.resolve with
      | anonymous inner depth =>
        rw [hvalue] at hs
        exact absurd hs TypeToken.not_spells_any
      | type inner =>
        rw [hvalue] at hs
        exact .values ⟨hc, hp⟩ href htype hadditional (ih inner hvalue hs)
  case scalar =>
    rintro schema type hc hp href htype _ ⟨⟩ hs
    unfold scalarToken at hs
    split at hs
    · rename_i p hscalar
      cases hs
      exact .scalar ⟨hc, hp⟩ href htype hscalar
    · cases hs
  -- Three tokens stand for a schema without a type; none of them spells a name.
  case untyped =>
    rintro schema _ huntyped token ⟨⟩ hs
    rcases huntyped with rfl | rfl | rfl
    · cases hs
    · cases hs with
      | array hs => cases hs
    · cases hs with
      | map hs => cases hs

/-- **The type of a value** spells what the schema does. -/
theorem spells_iff {schema : Schema} {name : String} :
    schema.Spells name ↔ ∃ token, schema.resolve = .type token ∧ token.Spells name :=
  ⟨exists_of_spells, fun ⟨_, hr, hs⟩ => spells_of_resolve hr hs⟩

end Schema

/-! ## The aliases of models -/

/-- `model.LeadsOn name` — the model is another name for a type that spells the name, and not an
enumeration of texts, which is a type of its own. -/
def Model.LeadsOn (model : Model) (name : String) : Prop :=
  model.isStringEnum = false ∧ ∃ token, model.aliasOf = some token ∧ token.Spells name

/-- A model without an alias, or with any value for one, leads nowhere. -/
theorem Model.not_leadsOn_of_aliasOf {model : Model} {name : String}
    (h : model.aliasOf = none ∨ model.aliasOf = some .any) : ¬ model.LeadsOn name := by
  rintro ⟨-, token, htoken, hs⟩
  rcases h with h | h
  · cases h.symm.trans htoken
  · cases h.symm.trans htoken
    cases hs

/-- A composition is no alias, or one of any value. -/
theorem Model.aliasOf_ofChildren (model : Model) (union : Bool) (children : List String) :
    (model.ofChildren union children).aliasOf = none ∨
      (model.ofChildren union children).aliasOf = some .any := by
  cases children with
  | nil => exact Or.inr rfl
  | cons child rest => exact Or.inl rfl

/-- **A made-up model leads nowhere:** at most it is another name for any value. -/
theorem Model.MadeOf.not_leadsOn {schema : Schema} {model : Model} {name : String}
    (h : model.MadeOf schema) (hgenerated : model.generated = true) : ¬ model.LeadsOn name := by
  apply Model.not_leadsOn_of_aliasOf
  -- A generated model comes from an inline shape or from own fields; a component's is not
  -- generated.
  cases h with
  | component own taken =>
    rw [(buildModel_name own false schema taken).2] at hgenerated
    cases hgenerated
  | ownFields own taken h => exact Or.inl rfl
  | inline own taken hneeds =>
    cases hb : schema.bareReference? with
    | some reference =>
      rw [buildModel_of_reference hb]
      exact Or.inl rfl
    | none => cases hc : schema.composition? with
      | some composition =>
        obtain ⟨members, union⟩ := composition
        rw [buildModel_of_composed hb hc]
        dsimp only
        split
        · exact Model.aliasOf_ofChildren ..
        · exact Model.aliasOf_ofChildren ..
      | none =>
        -- An inline shape needs a name for one of two reasons, and the composition is excluded
        -- here.
        have hp : schema.hasProperties = true := by
          rcases hneeds with hp | hsome
          · exact hp
          · rw [hc] at hsome
            cases hsome
        rw [buildModel_of_record hb hc hp]
        exact Or.inl rfl

/-- Only a schema without a shape of its own is another name for something. -/
theorem Schema.Renames.shapeless {schema : Schema} {name : String} (h : schema.Renames name) :
    schema.bareReference? = none ∧ schema.Shapeless := by
  cases h with
  | scalar hb h => exact ⟨hb, h⟩
  | list hb h => exact ⟨hb, h⟩
  | map hb h => exact ⟨hb, h⟩

section Leads

variable {name target : String} {generated : Bool} {schema : Schema}

/-- A scalar leads on to the type that holds it, unless its texts are listed. -/
theorem Model.leadsOn_ofScalar_iff (hb : schema.bareReference? = none) (h : schema.Shapeless)
    (hs : schema.isPlain = true) :
    ((unshaped name generated schema).ofScalar schema).LeadsOn target ↔ schema.Renames target := by
  have htextEnum : ((unshaped name generated schema).ofScalar schema).isStringEnum =
      (schema.literals.isSome && some schema.aliasToken == some (.primitive .string)) := rfl
  constructor
  · -- The alias token is a scalar's or nothing; enumerations of texts are excluded by their own
    -- type.
    rintro ⟨htext, token, htoken, hspells⟩
    cases htoken
    rw [htextEnum] at htext
    cases hp : schema.primaryType?.bind (Primitive.ofSchema? · schema.format) with
    | some p =>
      simp only [Schema.aliasToken, hp] at hspells htext
      cases hspells
      refine .scalar hb h hs hp ?_ rfl
      rintro hsome rfl
      rw [hsome] at htext
      cases htext
    | none =>
      simp only [Schema.aliasToken, hp] at hspells htext
      split at hspells
      · rename_i hsome
        rw [hsome] at htext
        cases htext
      · cases hspells
  · intro hrenames
    cases hrenames with
    | @scalar p _ _ _ hp htexts hname =>
      subst hname
      have htoken : schema.aliasToken = .primitive p := by simp only [Schema.aliasToken, hp]
      -- A text enumeration is refused by the condition that a text has no literals.
      refine ⟨?_, schema.aliasToken, rfl, htoken ▸ .primitive p⟩
      rw [htextEnum, htoken, Bool.and_eq_false_imp]
      intro hsome
      have hne := htexts hsome
      simpa using hne
    | list _ _ hs' =>
      rw [hs] at hs'
      cases hs'
    | map _ _ hs' =>
      rw [hs] at hs'
      cases hs'

/-- A list or a map leads on to what its type spells. -/
theorem Model.leadsOn_asAlias_iff {token : TypeToken} :
    LeadsOn { unshaped name generated schema with aliasOf := some token } target ↔
      token.Spells target := by
  constructor
  · rintro ⟨-, token, htoken, hspells⟩
    cases htoken
    exact hspells
  · intro hspells
    exact ⟨rfl, token, rfl, hspells⟩

/-- **The model of a component leads on** to what its schema does, among the names that are not
made up. -/
theorem Graph.Describes.leadsOn_iff {graph : Graph} {model : Model}
    (h : graph.Describes name false schema model)
    (htarget : ∀ other, graph.get? target = some other → other.generated = false) :
    model.LeadsOn target ↔ schema.Renames target := by
  cases h with
  | reference hb =>
    refine iff_of_false (Model.not_leadsOn_of_aliasOf (Or.inl rfl)) fun h => ?_
    cases hb.symm.trans h.shapeless.1
  | composition hb hc =>
    refine iff_of_false (Model.not_leadsOn_of_aliasOf (Model.aliasOf_ofChildren ..)) fun h => ?_
    cases hc.symm.trans h.shapeless.2.composition
  | extended hb hc =>
    refine iff_of_false (Model.not_leadsOn_of_aliasOf (Model.aliasOf_ofChildren ..)) fun h => ?_
    cases hc.symm.trans h.shapeless.2.composition
  | record hb hc hp =>
    refine iff_of_false (Model.not_leadsOn_of_aliasOf (Or.inl rfl)) fun h => ?_
    cases hp.symm.trans h.shapeless.2.properties
  | scalar hb hc hp hs => exact Model.leadsOn_ofScalar_iff hb ⟨hc, hp⟩ hs
  | array hb hc hp hs ha items =>
    rw [Model.leadsOn_asAlias_iff]
    constructor
    · intro hspells
      cases items with
      | own hr => exact .list hb ⟨hc, hp⟩ hs ha (Schema.spells_of_resolve hr hspells)
      | inline hr made =>
        -- the name of the item is made up, and the one asked about is not
        obtain rfl := TypeToken.eq_of_spells_inArrays hspells
        cases made with
        | intro stored built =>
          obtain ⟨taken, rfl⟩ := built
          have hmade := htarget _ stored
          rw [(buildModel_name _ true _ taken).2] at hmade
          cases hmade
    · intro hrenames
      cases hrenames with
      | scalar _ _ hs' => cases hs.symm.trans hs'
      | map _ _ _ ha' => exact absurd ha ha'
      | list _ _ _ _ hvalue =>
        obtain ⟨own, hown, hspells⟩ := Schema.exists_of_spells hvalue
        cases items with
        | own hr =>
          cases hown.symm.trans hr
          exact hspells
        | inline hr made => cases hown.symm.trans hr
  | map hb hc hp hs ha hadd =>
    rw [Model.leadsOn_asAlias_iff, Schema.spells_mapToken_iff]
    constructor
    · rintro ⟨value, hvalue, htoken⟩
      exact .map hb ⟨hc, hp⟩ hs ha hvalue (Schema.spells_iff.2 htoken)
    · intro hrenames
      cases hrenames with
      | scalar _ _ hs' => cases hs.symm.trans hs'
      | list _ _ _ ha' => exact absurd ha' ha
      | map _ _ _ _ hvalue hspells => exact ⟨_, hvalue, Schema.spells_iff.1 hspells⟩
  | plain hb hc hp hs ha hadd =>
    refine iff_of_false (Model.not_leadsOn_of_aliasOf (Or.inl rfl)) fun h => ?_
    cases h with
    | scalar _ _ hs' => cases hs.symm.trans hs'
    | list _ _ _ ha' => exact ha ha'
    | map _ _ _ _ hvalue => exact hadd _ hvalue

end Leads

/-! ## The items of a module -/

namespace Sdk

variable {graph : Graph} {a b : String}

/-- A plain alias is no enumeration of texts. -/
theorem isStringEnum_of_shape_plainAlias {model : Model} (h : model.shape = .plainAlias) :
    model.isStringEnum = false := by
  cases he : model.isEnum with
  | false => simp [Model.isStringEnum, he]
  | true => cases ha : model.aliasOf with
    | none =>
      have hne : ∀ first second : Bool, (if first = true then Shape.struct
          else if second = true then .composition else .empty) ≠ .plainAlias := by decide
      simp only [Model.shape, he, ha, Option.isSome_none, Bool.and_false] at h
      exact absurd h (hne _ _)
    | some token => simp [Model.shape, he, ha] at h

/-- What stands behind an alias is the type of the model's own token. -/
theorem leadsOn_of_behind {model : Model} {type : Ty} (htext : model.isStringEnum = false)
    (htype : type = match model.aliasOf with
      | some token => typeOf graph token
      | none => .anyValue) (hs : type.Spells b) : model.LeadsOn b := by
  subst htype
  refine ⟨htext, ?_⟩
  cases ha : model.aliasOf with
  | some token =>
    rw [ha] at hs
    exact ⟨token, rfl, spells_of_typeOf hs⟩
  | none =>
    rw [ha] at hs
    exact absurd hs not_spells_anyValue

/-- What an alias of a model spells, its model leads on to. -/
theorem leadsOn_of_typeAlias {model : Model} {type : Ty} {doc : Option String}
    (h : Item.typeAlias a type doc ∈ modelItems graph model) (hs : type.Spells b) :
    a = model.name ∧ model.LeadsOn b := by
  unfold modelItems at h
  dsimp only at h
  -- Constants never are type aliases, so each shape leaves one item to look at.
  split at h
  · unfold enumItems at h
    dsimp only at h
    split at h
    · rcases List.mem_cons.1 h with h | h
      · cases h
      · obtain ⟨_, _, _, h⟩ := mem_constants h
        cases h
    · rename_i htext
      rcases List.mem_cons.1 h with h | h
      · cases h
        exact ⟨rfl, leadsOn_of_behind (Bool.eq_false_iff.2 htext) rfl hs⟩
      · obtain ⟨_, _, _, h⟩ := mem_constants h
        cases h
  · rename_i hshape
    cases List.mem_singleton.1 h
    exact ⟨rfl, leadsOn_of_behind (isStringEnum_of_shape_plainAlias hshape) rfl hs⟩
  · cases List.mem_singleton.1 h
  · split at h
    · cases List.mem_singleton.1 h
      -- A map of anything spells no name, and neither does the alias of an empty model.
      exact absurd hs not_spells_anyValue
    · cases List.mem_singleton.1 h
  · cases List.mem_singleton.1 h
    cases hs with
    | map hs => exact absurd hs not_spells_anyValue

/-- A model that is another name for a token gives an alias of the token's type. -/
theorem typeAlias_mem_of_aliasOf {model : Model} {token : TypeToken}
    (htext : model.isStringEnum = false) (ha : model.aliasOf = some token) :
    Item.typeAlias model.name (typeOf graph token) model.description ∈ modelItems graph model := by
  cases he : model.isEnum with
  | true =>
    have hshape : model.shape = .enumAlias := by simp [Model.shape, he, ha]
    simp [modelItems, hshape, enumItems, htext, ha]
  | false =>
    have hshape : model.shape = .plainAlias := by simp [Model.shape, he, ha]
    simp [modelItems, hshape, ha]

/-- The aliases of the models' module lead on as the models do. -/
theorem exists_of_leadsOn (h : (modelsModule graph).LeadsOn a b) :
    ∃ model, graph.get? a = some model ∧ model.LeadsOn b := by
  obtain ⟨type, doc, hmem, hs⟩ := h
  obtain ⟨item, hitem, heq⟩ := List.mem_map.1 hmem
  cases heq
  obtain ⟨model, hmodel, hitem⟩ := List.mem_flatMap.1 hitem
  obtain ⟨rfl, hleads⟩ := leadsOn_of_typeAlias hitem hs
  exact ⟨model, Graph.mem_toList.1 hmodel, hleads⟩

/-- The module leads on as the models do, to names that have a model. -/
theorem leadsOn_of_model {model : Model} (hmodel : graph.get? a = some model)
    (h : model.LeadsOn b) (hb : graph.contains b = true) (hname : Ty.path b ≠ .anyValue) :
    (modelsModule graph).LeadsOn a b := by
  obtain ⟨htext, token, ha, hs⟩ := h
  obtain rfl := Graph.name_of_get? hmodel
  refine ⟨typeOf graph token, model.description, List.mem_map.2 ⟨_, ?_, rfl⟩,
    typeOf_spells hb hname hs⟩
  exact List.mem_flatMap.2 ⟨model, Graph.mem_toList.2 hmodel, typeAlias_mem_of_aliasOf htext ha⟩

end Sdk

/-! ## The models of components -/

namespace Document

variable {doc : Document} {name : String} {schema : Schema}

/-- The name of a component is the type name of its key. -/
theorem exists_key_of_mem_namedSchemas (h : (name, schema) ∈ doc.namedSchemas) :
    ∃ key, name = Naming.typeName key := by
  simp only [namedSchemas, List.mem_append, List.mem_map, List.mem_filterMap,
    Option.map_eq_some_iff] at h
  rcases h with (⟨⟨key, _⟩, -, heq⟩ | ⟨⟨key, _⟩, -, _, -, heq⟩) | ⟨⟨key, _⟩, -, _, -, heq⟩
  all_goals
    cases heq
    exact ⟨key, rfl⟩

/-- A name of a model is that of a component with an ending, so it is not that of any value. -/
theorem path_ne_anyValue_of_get? {model : Model}
    (h : (Graph.ofDocument doc).get? name = some model) : Ty.path name ≠ .anyValue := by
  rw [get?_ofDocument] at h
  have hname : model.name = name := by simpa using List.find?_some h
  obtain ⟨entry, hentry, hstems⟩ := stemsFrom_of_mem_builtModels (List.mem_of_find?_eq_some h)
  obtain ⟨key, hkey⟩ := exists_key_of_mem_namedSchemas hentry
  obtain ⟨ending, hending, hchars⟩ := hstems.1
  intro hpath
  have hvalue : name = "serde_json::Value" := Ty.path.inj hpath
  have hcolon : ':' ∈ entry.1.toList ++ ending := by
    rw [← hchars, hname, hvalue]
    decide
  rcases List.mem_append.1 hcolon with hbase | hend
  · rw [hkey] at hbase
    exact absurd (Naming.plain_typeName key ':' hbase) (by decide)
  · exact absurd (hending.alphanum.plain ':' hend) (by decide)

/-- A name that has a component is that of a model. -/
theorem path_ne_anyValue (h : doc.foremost? name = some schema) : Ty.path name ≠ .anyValue := by
  obtain ⟨before, after, -, hheld⟩ := (defines_foremost h).built
  exact path_ne_anyValue_of_get? hheld

/-- The model that the graph of a document holds for a component is not made up. -/
theorem generated_of_foremost (h : doc.foremost? name = some schema) {model : Model}
    (hmodel : (Graph.ofDocument doc).get? name = some model) : model.generated = false := by
  obtain ⟨before, after, -, hheld⟩ := (defines_foremost h).built
  cases hheld.symm.trans hmodel
  exact (buildModel_name name false schema _).2

end Document

namespace Sdk

variable {doc : Document} {routes : List String} {surface : Surface} {a b : String}

/-- A model of a run that leads on is that of a component. -/
theorem foremost_of_leadsOn (h : Sdk.surface doc routes = .ok surface) {model : Model}
    (hmodel : surface.models.get? a = some model) (hleads : model.LeadsOn b) :
    ∃ schema, doc.foremost? a = some schema ∧
      (Graph.ofDocument doc).Describes a false schema model := by
  obtain ⟨extraction, hextract, rfl⟩ := exists_of_surface h
  have hmerged := (Graph.get?_prune_eq_some_iff.1 hmodel).1
  rcases (Document.get?_mergedGraph hextract).1 hmerged with hdoc | ⟨hmem, -⟩
  · have hbuilt : model ∈ doc.builtModels := by
      rw [Document.get?_ofDocument] at hdoc
      exact List.mem_of_find?_eq_some hdoc
    obtain ⟨-, -, -, -, -, part, -, hmade⟩ := Document.stemsFrom_of_mem_builtModels hbuilt
    have hgenerated : model.generated = false :=
      Bool.eq_false_iff.2 fun htrue => hmade.not_leadsOn htrue hleads
    obtain ⟨entry, hentry, hname⟩ := List.mem_map.1 (name_mem_of_not_generated hbuilt hgenerated)
    obtain ⟨foremost, hforemost⟩ := Document.exists_foremost hentry
    rw [hname, Graph.name_of_get? hdoc] at hforemost
    exact ⟨foremost, hforemost, (Document.defines_foremost hforemost).describes model hdoc⟩
  · obtain ⟨after, hhoists⟩ := Document.extract_hoists hextract
    obtain ⟨-, -, -, -, -, part, -, hmade⟩ := Document.stemsFrom_of_mem_synthesized hextract hmem
    exact absurd hleads (hmade.not_leadsOn (hhoists.grows.generated model hmem))

/-- The model that a run keeps for a component. -/
theorem describes_of_foremost (h : Sdk.surface doc routes = .ok surface) {schema : Schema}
    (hkept : surface.models.contains a = true) (hforemost : doc.foremost? a = some schema) :
    ∃ model, surface.models.get? a = some model ∧
      (Graph.ofDocument doc).Describes a false schema model := by
  obtain ⟨extraction, hextract, rfl⟩ := exists_of_surface h
  have hdefines := Document.defines_foremost hforemost
  obtain ⟨before, after, -, hheld⟩ := hdefines.built
  obtain ⟨model, hmodel⟩ := Graph.contains_iff.1 hkept
  have hmerged := (Graph.get?_prune_eq_some_iff.1 hmodel).1
  cases hmerged.symm.trans ((Document.get?_mergedGraph hextract).2 (Or.inl hheld))
  exact ⟨_, hmodel, hdefines.describes _ hheld⟩

/-- A way that comes back may be taken by other steps, if each step that goes on is one of them. -/
theorem transGen_of_goesOn {α : Type} {r r' : α → α → Prop} (h : ∀ x y z, r x y → r y z → r' x y)
    {x : α} (hcycle : Relation.TransGen r x x) : Relation.TransGen r' x x := by
  have hway : ∀ y z, Relation.TransGen r x y → r y z → Relation.TransGen r' x y := by
    intro y z hxy
    induction hxy generalizing z with
    | single hstep => exact fun hnext => .single (h _ _ _ hstep hnext)
    | tail _ hstep ih => exact fun hnext => .tail (ih _ hstep) (h _ _ _ hstep hnext)
  obtain ⟨y, hfirst, -⟩ := Relation.TransGen.head'_iff.1 hcycle
  exact hway x y hcycle hfirst

/-- **Where aliases come back.**  Expanding an alias of the models' module comes back to it exactly
if its component leads back to itself through components that are lists, maps or scalars and that
the endpoints need. -/
theorem aliases_return_iff (h : Sdk.surface doc routes = .ok surface) (name : String) :
    Relation.TransGen (modelsModule surface.models).LeadsOn name name ↔
      Relation.TransGen (fun a b => surface.models.contains a = true ∧ doc.Renames a b)
        name name := by
  constructor
  · refine transGen_of_goesOn fun a b c hab hbc => ?_
    obtain ⟨model, hmodel, hleads⟩ := exists_of_leadsOn hab
    obtain ⟨next, hnext, hgoes⟩ := exists_of_leadsOn hbc
    obtain ⟨schema, hforemost, hdescribes⟩ := foremost_of_leadsOn h hmodel hleads
    obtain ⟨other, hother, -⟩ := foremost_of_leadsOn h hnext hgoes
    exact ⟨Graph.contains_iff.2 ⟨model, hmodel⟩, schema, hforemost,
      (hdescribes.leadsOn_iff fun _ => Document.generated_of_foremost hother).1 hleads⟩
  · refine transGen_of_goesOn fun a b c hab hbc => ?_
    obtain ⟨hkept, schema, hforemost, hrenames⟩ := hab
    obtain ⟨hnext, other, hother, -⟩ := hbc
    obtain ⟨model, hmodel, hdescribes⟩ := describes_of_foremost h hkept hforemost
    have hleads : model.LeadsOn b :=
      (hdescribes.leadsOn_iff fun _ => Document.generated_of_foremost hother).2 hrenames
    exact leadsOn_of_model hmodel hleads hnext (Document.path_ne_anyValue hother)

/-! ## A list of itself -/

/-- An operation that gives a tree. -/
def treeOperation : Operation where
  id := some "fetch"
  responses := .ofList [("200", { content := some (.ofList [("application/json",
    { schema := some (schemaReference "Tree") })]) })]

/-- A tree is the list of its branches. -/
def treeDocument : Document where
  paths := .ofList [("/tree", { get := some treeOperation })]
  components := some { schemas := some (.ofList [
    ("Tree", { type := some (.single "array"), items := some (schemaReference "Tree") })]) }

/-- The one reference leads to the one component. -/
theorem treeDocument_refersToSchemas : treeDocument.RefersToSchemas := by
  have houter : treeDocument.outerSchemas =
      [{ type := some (.single "array"), items := some (schemaReference "Tree") },
        schemaReference "Tree"] := rfl
  have htree : treeDocument.schemas.contains
      (Naming.referencedKey "#/components/schemas/Tree") = true := by decide +kernel
  have hreference : ∀ inner : Schema, inner.Within (schemaReference "Tree") →
      ∀ reference, inner.reference = some reference →
        treeDocument.schemas.contains (Naming.referencedKey reference) = true := by
    intro inner hin reference href
    rcases Schema.within_iff.1 hin with rfl | ⟨part, hpart, -⟩
    · cases href
      exact htree
    · cases hpart
  intro schema hmem inner hin reference href
  rw [houter] at hmem
  simp only [List.mem_cons, List.not_mem_nil, or_false] at hmem
  rcases hmem with rfl | rfl
  · rcases Schema.within_iff.1 hin with rfl | ⟨part, hpart, hin⟩
    · cases href
    · obtain rfl := List.mem_singleton.1 hpart
      exact hreference inner hin reference href
  · exact hreference inner hin reference href

/-- The type that the reference names. -/
theorem treeName : Schema.referencedType "#/components/schemas/Tree" = "Tree" := by decide +kernel

/-- A tree is another name for a list of trees. -/
theorem treeDocument_renames : treeDocument.Renames "Tree" "Tree" := by
  refine ⟨{ type := some (.single "array"), items := some (schemaReference "Tree") }, rfl, ?_⟩
  refine .list rfl ⟨rfl, rfl⟩ rfl rfl (.items ⟨rfl, rfl⟩ rfl rfl rfl ?_)
  have hreference : (schemaReference "Tree").Spells
      (Schema.referencedType "#/components/schemas/Tree") := .reference ⟨rfl, rfl⟩ rfl
  rwa [treeName] at hreference

/-- The endpoint of a run on the document gives a tree. -/
theorem treeDocument_mentions {surface : Surface} (h : Sdk.surface treeDocument [] = .ok surface) :
    ∃ endpoint ∈ surface.endpoints, endpoint.Mentions "Tree" := by
  obtain ⟨extraction, hextract, rfl⟩ := exists_of_surface h
  have hstands := Document.endpoints_stand hextract
  have hvisits : Extraction.visits treeDocument [] =
      [("/tree", { get := some treeOperation }, .get, treeOperation)] := rfl
  rw [hvisits] at hstands
  obtain ⟨endpoint, rest, hfirst, -, heq⟩ := List.forall₂_cons_left_iff.1 hstands
  obtain ⟨token, htoken, hstands⟩ := hfirst.response
  have hbare : (schemaReference "Tree").bareReference? = some "#/components/schemas/Tree" := rfl
  have hresolve := Schema.resolve_of_bareReference hbare
  rw [treeName] at hresolve
  have hstands : (treeDocument.mergedGraph extraction).Stands (schemaReference "Tree") token :=
    hstands
  refine ⟨endpoint, heq ▸ List.mem_cons_self, .response token htoken ?_⟩
  cases hstands with
  | own hown =>
    cases hown.symm.trans hresolve
    exact .named "Tree"
  | inline hinner => cases hinner.symm.trans hresolve

/-- Its alias is an alias of itself, although every reference leads to a schema. -/
theorem aliases_return_iff_tree :
    ∃ surface, Sdk.surface treeDocument [] = .ok surface ∧ treeDocument.RefersToSchemas ∧
      Relation.TransGen (modelsModule surface.models).LeadsOn "Tree" "Tree" := by
  have hok : (Sdk.surface treeDocument []).isOk = true := by decide +kernel
  cases h : Sdk.surface treeDocument [] with
  | error cause =>
    rw [h] at hok
    cases hok
  | ok surface =>
    obtain ⟨endpoint, hendpoint, hmentions⟩ := treeDocument_mentions h
    have hkept : surface.models.contains "Tree" = true :=
      (surface_closed treeDocument_refersToSchemas h).endpoints endpoint hendpoint "Tree" hmentions
    refine ⟨surface, rfl, treeDocument_refersToSchemas, (aliases_return_iff h "Tree").2 ?_⟩
    exact .single ⟨hkept, treeDocument_renames⟩

end Sdk

end ClientForge
