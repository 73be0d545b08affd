/-
  What is built, call by call.

  Four functions call one another: a model is built of its members and fields, these bind the types of
  their schemas, and a bound type may ask for a model again.  Each of them tells several cases apart,
  and the models hoisted and the names taken are threaded through all of them.

  The equations stand here, one for each kind of schema, with the conditions under which that kind is
  met: a reference, a composition with or without properties of its own, a record, a scalar, a list, a
  map, and nothing in particular.  The conditions are those of the branches, in their order, so every
  schema has exactly one equation.

  `BuildingSteps` is what they come to.  It asks, for each of the four functions, for a statement
  about its arguments and what it builds, and has one field for each equation: the statement of the
  whole from those of the parts.  `BuildingSteps.built` is the one induction along the calls.  What is
  to be known of everything built — that names grow by what is hoisted, where models come from, what
  texts they hold — is then shown step by step, and the functions are never opened again.

  The fields name what is built by `let`, as the equations do, so that a step is written in terms of
  what it was given and not of a triple of results.
-/
import ClientForge.Proofs.Hoisting.Description

namespace ClientForge

section Equations

variable {name : String} {generated : Bool} {schema : Schema} {names : Names}

/-! ## What is built of each kind of schema -/

/-- A schema that is nothing but a reference has the referenced model for its child. -/
theorem buildModel_of_reference {reference : String}
    (h : schema.bareReference? = some reference) :
    buildModel name generated schema names =
      ⟨{ Model.unshaped name generated schema with
          children := .ofList [Schema.referencedType reference] }, [], names⟩ := by
  rw [buildModel]
  simp only [h]
  rfl

/-- A composition: its parts, and its own fields where it has any. -/
theorem buildModel_of_composed {members : List Schema} {union : Bool}
    (hb : schema.bareReference? = none) (hc : schema.composition? = some (members, union)) :
    buildModel name generated schema names =
      let own := if schema.hasProperties then 1 else 0
      let total := members.countP Schema.isInline + own
      let parts := buildMembers (memberName name total) 1 members names
      if schema.hasProperties then
        let own := parts.names.claim (memberName name total total)
        let fields := buildFields own.1 (schema.required.getD []) schema.ownProperties own.2
        ⟨(Model.unshaped name generated schema).ofChildren union (parts.result ++ [own.1]),
          parts.hoisted ++ fields.hoisted ++
            [Model.withFields { name := own.1, generated := true } fields.result],
          fields.names⟩
      else
        ⟨(Model.unshaped name generated schema).ofChildren union parts.result, parts.hoisted,
          parts.names⟩ := by
  rw [buildModel]
  simp only [hb]
  -- The source matches on the composition once more; the two answers agree.
  split
  · rename_i hc'
    cases hc.symm.trans hc'
    rfl
  · rename_i hc'
    cases hc.symm.trans hc'

/-- A composition without properties of its own has its parts for children. -/
theorem buildModel_of_composition {members : List Schema} {union : Bool}
    (hb : schema.bareReference? = none) (hc : schema.composition? = some (members, union))
    (hp : schema.hasProperties = false) :
    buildModel name generated schema names =
      let total := members.countP Schema.isInline
      let parts := buildMembers (memberName name total) 1 members names
      ⟨(Model.unshaped name generated schema).ofChildren union parts.result, parts.hoisted,
        parts.names⟩ := by
  rw [buildModel_of_composed hb hc, hp]
  rfl

/-- A composition with properties of its own has a child more, for these. -/
theorem buildModel_of_extended {members : List Schema} {union : Bool}
    (hb : schema.bareReference? = none) (hc : schema.composition? = some (members, union))
    (hp : schema.hasProperties = true) :
    buildModel name generated schema names =
      let total := members.countP Schema.isInline + 1
      let parts := buildMembers (memberName name total) 1 members names
      let own := parts.names.claim (memberName name total total)
      let fields := buildFields own.1 (schema.required.getD []) schema.ownProperties own.2
      ⟨(Model.unshaped name generated schema).ofChildren union (parts.result ++ [own.1]),
        parts.hoisted ++ fields.hoisted ++
          [Model.withFields { name := own.1, generated := true } fields.result],
        fields.names⟩ := by
  rw [buildModel_of_composed hb hc, hp]
  rfl

variable (hb : schema.bareReference? = none) (hc : schema.composition? = none)

include hb hc

/-- Any other schema: a record, a scalar, a list, a map, or nothing in particular.  A list is built
as if its type were bound under the item's name. -/
theorem buildModel_of_simple :
    buildModel name generated schema names =
      if schema.hasProperties then
        let fields := buildFields name (schema.required.getD []) schema.ownProperties names
        ⟨(Model.unshaped name generated schema).withFields fields.result, fields.hoisted,
          fields.names⟩
      else if schema.isScalar || schema.literals.isSome then
        ⟨(Model.unshaped name generated schema).ofScalar schema, [], names⟩
      else if schema.primaryType? = some "array" then
        let type := bindSchema (name ++ "Item") schema names
        ⟨{ Model.unshaped name generated schema with aliasOf := some type.result }, type.hoisted,
          type.names⟩
      else match schema.additional with
        | some (.schema _) =>
          ⟨{ Model.unshaped name generated schema with aliasOf := some schema.mapToken }, [], names⟩
        | _ => ⟨Model.unshaped name generated schema, [], names⟩ := by
  rw [buildModel, bindSchema]
  simp only [hb]
  split
  · rename_i hc'
    cases hc.symm.trans hc'
  · -- With properties nothing is left to compare; without them a list binds its items by what they
    -- resolve to, a type or an inline shape.
    cases schema.hasProperties with
    | true => rfl
    | false => cases schema.resolve <;> rfl

/-- An object has its properties for fields. -/
theorem buildModel_of_record (hp : schema.hasProperties = true) :
    buildModel name generated schema names =
      let fields := buildFields name (schema.required.getD []) schema.ownProperties names
      ⟨(Model.unshaped name generated schema).withFields fields.result, fields.hoisted,
        fields.names⟩ := by
  rw [buildModel_of_simple hb hc, if_pos hp]

variable (hp : schema.hasProperties = false)

include hp

/-- A scalar or a row of literals is an enumeration or another name for a scalar. -/
theorem buildModel_of_scalar (hs : (schema.isScalar || schema.literals.isSome) = true) :
    buildModel name generated schema names =
      ⟨(Model.unshaped name generated schema).ofScalar schema, [], names⟩ := by
  rw [buildModel_of_simple hb hc, hp, if_neg Bool.false_ne_true, if_pos hs]

variable (hs : (schema.isScalar || schema.literals.isSome) = false)

include hs

/-- A list is another name for the type of the list. -/
theorem buildModel_of_array (ha : schema.primaryType? = some "array") :
    buildModel name generated schema names =
      let type := bindSchema (name ++ "Item") schema names
      ⟨{ Model.unshaped name generated schema with aliasOf := some type.result }, type.hoisted,
        type.names⟩ := by
  rw [buildModel_of_simple hb hc, hp, hs, if_neg Bool.false_ne_true, if_neg Bool.false_ne_true,
    if_pos ha]

/-- A map is another name for the type of the map. -/
theorem buildModel_of_map {value : Schema} (ha : schema.primaryType? ≠ some "array")
    (hadd : schema.additional = some (.schema value)) :
    buildModel name generated schema names =
      ⟨{ Model.unshaped name generated schema with aliasOf := some schema.mapToken }, [],
        names⟩ := by
  rw [buildModel_of_simple hb hc, hp, hs, if_neg Bool.false_ne_true, if_neg Bool.false_ne_true,
    if_neg ha, hadd]

/-- Anything else has no shape. -/
theorem buildModel_of_plain (ha : schema.primaryType? ≠ some "array")
    (hadd : ∀ value, schema.additional ≠ some (.schema value)) :
    buildModel name generated schema names =
      ⟨Model.unshaped name generated schema, [], names⟩ := by
  rw [buildModel_of_simple hb hc, hp, hs, if_neg Bool.false_ne_true, if_neg Bool.false_ne_true,
    if_neg ha]
  split
  · rename_i value hadd'
    exact absurd hadd' (hadd value)
  · rfl

end Equations

/-- A model has the name and the origin that it is built with. -/
theorem buildModel_name (name : String) (generated : Bool) (schema : Schema) (names : Names) :
    (buildModel name generated schema names).result.name = name ∧
      (buildModel name generated schema names).result.generated = generated := by
  rw [buildModel]
  repeat' split
  all_goals exact ⟨rfl, rfl⟩

/-! ## Types, properties and members -/

/-- A schema with a type of its own is that type, and nothing is hoisted. -/
theorem bindSchema_of_type {preferred : String} {schema : Schema} {names : Names}
    {token : TypeToken} (h : schema.resolve = .type token) :
    bindSchema preferred schema names = ⟨token, [], names⟩ := by
  rw [bindSchema, h]

/-- One that needs a name claims it, and its model is hoisted. -/
theorem bindSchema_of_anonymous {preferred : String} {schema inner : Schema} {names : Names}
    {depth : Nat} (h : schema.resolve = .anonymous inner depth) :
    bindSchema preferred schema names =
      let own := names.claim preferred
      let built := buildModel own.1 true inner own.2
      ⟨(TypeToken.named own.1).inArrays depth, built.result :: built.hoisted, built.names⟩ := by
  rw [bindSchema, h]

/-- A property is bound before those behind it. -/
theorem buildFields_cons (owner : String) (required : List String) (key : String)
    (schema : Schema) (rest : List (String × Schema)) (names : Names) :
    buildFields owner required ((key, schema) :: rest) names =
      let type := bindSchema (Naming.hoistedName owner key) schema names
      let others := buildFields owner required rest type.names
      ⟨Field.ofProperty required key schema type.result :: others.result,
        type.hoisted ++ others.hoisted, others.names⟩ := by
  rw [buildFields]
  rfl

/-- A schema that is not a reference is inline if it has properties or parts. -/
theorem Schema.isInline_iff {schema : Schema} (hb : schema.bareReference? = none) :
    schema.isInline = (schema.hasProperties || schema.composition?.isSome) := by
  simp [Schema.isInline, hb]

/-- A member that is a reference names its child itself. -/
theorem buildMembers_of_reference {wished : Nat → String} {index : Nat} {member : Schema}
    {rest : List Schema} {names : Names} {reference : String}
    (h : member.bareReference? = some reference) :
    buildMembers wished index (member :: rest) names =
      let others := buildMembers wished index rest names
      ⟨Schema.referencedType reference :: others.result, others.hoisted, others.names⟩ := by
  rw [buildMembers]
  simp only [h]

/-- An inline member claims a name and is hoisted. -/
theorem buildMembers_of_inline {wished : Nat → String} {index : Nat} {member : Schema}
    {rest : List Schema} {names : Names} (hb : member.bareReference? = none)
    (h : (member.hasProperties || member.composition?.isSome) = true) :
    buildMembers wished index (member :: rest) names =
      let own := names.claim (wished index)
      let built := buildModel own.1 true member own.2
      let others := buildMembers wished (index + 1) rest built.names
      ⟨own.1 :: others.result, built.result :: built.hoisted ++ others.hoisted,
        others.names⟩ := by
  rw [buildMembers]
  simp only [hb, h, if_true]

/-- Any other member is passed over. -/
theorem buildMembers_of_other {wished : Nat → String} {index : Nat} {member : Schema}
    {rest : List Schema} {names : Names} (hb : member.bareReference? = none)
    (h : (member.hasProperties || member.composition?.isSome) = false) :
    buildMembers wished index (member :: rest) names = buildMembers wished index rest names := by
  rw [buildMembers]
  simp only [hb, h, Bool.false_eq_true, if_false]

/-! ## The induction -/

/-- **What it takes to speak of all that is built:** a statement for each of the four functions,
about the arguments of a call and what it built, that every kind of schema keeps.  A list is the
case of the type that is bound for its items. -/
structure BuildingSteps (ofModel : String → Bool → Schema → Names → Built Model → Prop)
    (ofFields : String → List String → List (String × Schema) → Names →
      Built (List (Field × Option String)) → Prop)
    (ofType : String → Schema → Names → Built TypeToken → Prop)
    (ofMembers : (Nat → String) → Nat → List Schema → Names → Built (List String) → Prop) :
    Prop where
  reference {name : String} {generated : Bool} {schema : Schema} {names : Names}
    {reference : String} (h : schema.bareReference? = some reference) :
    ofModel name generated schema names
      ⟨{ Model.unshaped name generated schema with
          children := .ofList [Schema.referencedType reference] }, [], names⟩
  /-- A composition with own fields, which get a model after its members have theirs. -/
  extended {name : String} {generated : Bool} {schema : Schema} {names : Names}
    {members : List Schema} {union : Bool} (hb : schema.bareReference? = none)
    (hc : schema.composition? = some (members, union)) (hp : schema.hasProperties = true) :
    let total := members.countP Schema.isInline + 1
    let parts := buildMembers (memberName name total) 1 members names
    let own := parts.names.claim (memberName name total total)
    let fields := buildFields own.1 (schema.required.getD []) schema.ownProperties own.2
    ofMembers (memberName name total) 1 members names parts →
    ofFields own.1 (schema.required.getD []) schema.ownProperties own.2 fields →
    ofModel name generated schema names
      ⟨(Model.unshaped name generated schema).ofChildren union (parts.result ++ [own.1]),
        parts.hoisted ++ fields.hoisted ++
          [Model.withFields { name := own.1, generated := true } fields.result],
        fields.names⟩
  composition {name : String} {generated : Bool} {schema : Schema} {names : Names}
    {members : List Schema} {union : Bool} (hb : schema.bareReference? = none)
    (hc : schema.composition? = some (members, union)) (hp : schema.hasProperties = false) :
    let total := members.countP Schema.isInline
    let parts := buildMembers (memberName name total) 1 members names
    ofMembers (memberName name total) 1 members names parts →
    ofModel name generated schema names
      ⟨(Model.unshaped name generated schema).ofChildren union parts.result, parts.hoisted,
        parts.names⟩
  record {name : String} {generated : Bool} {schema : Schema} {names : Names}
    (hb : schema.bareReference? = none) (hc : schema.composition? = none)
    (hp : schema.hasProperties = true) :
    let fields := buildFields name (schema.required.getD []) schema.ownProperties names
    ofFields name (schema.required.getD []) schema.ownProperties names fields →
    ofModel name generated schema names
      ⟨(Model.unshaped name generated schema).withFields fields.result, fields.hoisted,
        fields.names⟩
  scalar {name : String} {generated : Bool} {schema : Schema} {names : Names}
    (hb : schema.bareReference? = none) (hc : schema.composition? = none)
    (hp : schema.hasProperties = false)
    (hs : (schema.isScalar || schema.literals.isSome) = true) :
    ofModel name generated schema names
      ⟨(Model.unshaped name generated schema).ofScalar schema, [], names⟩
  array {name : String} {generated : Bool} {schema : Schema} {names : Names}
    (hb : schema.bareReference? = none) (hc : schema.composition? = none)
    (hp : schema.hasProperties = false)
    (hs : (schema.isScalar || schema.literals.isSome) = false)
    (ha : schema.primaryType? = some "array") :
    let type := bindSchema (name ++ "Item") schema names
    ofType (name ++ "Item") schema names type →
    ofModel name generated schema names
      ⟨{ Model.unshaped name generated schema with aliasOf := some type.result }, type.hoisted,
        type.names⟩
  map {name : String} {generated : Bool} {schema value : Schema} {names : Names}
    (hb : schema.bareReference? = none) (hc : schema.composition? = none)
    (hp : schema.hasProperties = false)
    (hs : (schema.isScalar || schema.literals.isSome) = false)
    (ha : schema.primaryType? ≠ some "array")
    (hadd : schema.additional = some (.schema value)) :
    ofModel name generated schema names
      ⟨{ Model.unshaped name generated schema with aliasOf := some schema.mapToken }, [], names⟩
  plain {name : String} {generated : Bool} {schema : Schema} {names : Names}
    (hb : schema.bareReference? = none) (hc : schema.composition? = none)
    (hp : schema.hasProperties = false)
    (hs : (schema.isScalar || schema.literals.isSome) = false)
    (ha : schema.primaryType? ≠ some "array")
    (hadd : ∀ value, schema.additional ≠ some (.schema value)) :
    ofModel name generated schema names ⟨Model.unshaped name generated schema, [], names⟩
  noField {owner : String} {required : List String} {names : Names} :
    ofFields owner required [] names ⟨[], [], names⟩
  field {owner key : String} {required : List String} {schema : Schema}
    {rest : List (String × Schema)} {names : Names} :
    let type := bindSchema (Naming.hoistedName owner key) schema names
    let others := buildFields owner required rest type.names
    ofType (Naming.hoistedName owner key) schema names type →
    ofFields owner required rest type.names others →
    ofFields owner required ((key, schema) :: rest) names
      ⟨Field.ofProperty required key schema type.result :: others.result,
        type.hoisted ++ others.hoisted, others.names⟩
  /-- A type of the schema's own. -/
  own {preferred : String} {schema : Schema} {names : Names} {token : TypeToken}
    (hr : schema.resolve = .type token) : ofType preferred schema names ⟨token, [], names⟩
  /-- A type that a model is made for. -/
  inline {preferred : String} {schema inner : Schema} {names : Names} {depth : Nat}
    (hr : schema.resolve = .anonymous inner depth) :
    let own := names.claim preferred
    let built := buildModel own.1 true inner own.2
    ofModel own.1 true inner own.2 built →
    ofType preferred schema names
      ⟨(TypeToken.named own.1).inArrays depth, built.result :: built.hoisted, built.names⟩
  noMember {wished : Nat → String} {index : Nat} {names : Names} :
    ofMembers wished index [] names ⟨[], [], names⟩
  memberReference {wished : Nat → String} {index : Nat} {member : Schema} {rest : List Schema}
    {names : Names} {reference : String} (h : member.bareReference? = some reference) :
    let others := buildMembers wished index rest names
    ofMembers wished index rest names others →
    ofMembers wished index (member :: rest) names
      ⟨Schema.referencedType reference :: others.result, others.hoisted, others.names⟩
  memberInline {wished : Nat → String} {index : Nat} {member : Schema} {rest : List Schema}
    {names : Names} (hb : member.bareReference? = none)
    (h : (member.hasProperties || member.composition?.isSome) = true) :
    let own := names.claim (wished index)
    let built := buildModel own.1 true member own.2
    let others := buildMembers wished (index + 1) rest built.names
    ofModel own.1 true member own.2 built →
    ofMembers wished (index + 1) rest built.names others →
    ofMembers wished index (member :: rest) names
      ⟨own.1 :: others.result, built.result :: built.hoisted ++ others.hoisted, others.names⟩
  /-- A member of any other kind is passed over. -/
  memberOther {wished : Nat → String} {index : Nat} {member : Schema} {rest : List Schema}
    {names : Names} (hb : member.bareReference? = none)
    (h : (member.hasProperties || member.composition?.isSome) = false) :
    ofMembers wished index rest names (buildMembers wished index rest names) →
    ofMembers wished index (member :: rest) names (buildMembers wished index rest names)

/-- **Induction along the calls of the four functions:** what every step keeps is so of whatever
is built. -/
theorem BuildingSteps.built {ofModel : String → Bool → Schema → Names → Built Model → Prop}
    {ofFields : String → List String → List (String × Schema) → Names →
      Built (List (Field × Option String)) → Prop}
    {ofType : String → Schema → Names → Built TypeToken → Prop}
    {ofMembers : (Nat → String) → Nat → List Schema → Names → Built (List String) → Prop}
    (steps : BuildingSteps ofModel ofFields ofType ofMembers) :
    (∀ name generated schema names,
      ofModel name generated schema names (buildModel name generated schema names)) ∧
    (∀ owner required properties names,
      ofFields owner required properties names (buildFields owner required properties names)) ∧
    (∀ preferred schema names,
      ofType preferred schema names (bindSchema preferred schema names)) ∧
    (∀ wished index members names,
      ofMembers wished index members names (buildMembers wished index members names)) := by
  -- the generated principle has the branches as they are written: claims are pairs taken apart,
  -- the number of models is a sum, and a list has one case for each resolution of its items
  refine buildModel.mutual_induct
    (fun name generated schema names =>
      ofModel name generated schema names (buildModel name generated schema names))
    (fun owner required properties names =>
      ofFields owner required properties names (buildFields owner required properties names))
    (fun preferred schema names =>
      ofType preferred schema names (bindSchema preferred schema names))
    (fun wished index members names =>
      ofMembers wished index members names (buildMembers wished index members names))
    ?reference ?extended ?composition ?record ?scalar ?listOwn ?listInline ?map ?plain ?noField
    ?field ?own ?inline ?noMember ?memberReference ?memberInline ?memberOther
  case reference =>
    intro name generated schema names _ h
    rw [buildModel_of_reference h]
    exact steps.reference h
  case extended =>
    intro name generated schema names hb members union hc own total parts hp ownName names' hclaim
      hparts hfields
    have hown : own = 1 := dif_pos hp
    have htotal : total = members.countP Schema.isInline + 1 := by rw [← hown]
    obtain rfl : (parts.names.claim (memberName name total total)).1 = ownName := by rw [hclaim]
    obtain rfl : (parts.names.claim (memberName name total total)).2 = names' := by rw [hclaim]
    rw [buildModel_of_extended hb hc hp]
    exact steps.extended hb hc hp (htotal ▸ hparts) (htotal ▸ hfields)
  case composition =>
    intro name generated schema names hb members union hc own total hp hparts
    have hown : own = 0 := dif_neg hp
    have htotal : total = members.countP Schema.isInline := by
      rw [← Nat.add_zero (List.countP ..), ← hown]
    have hp := Bool.eq_false_iff.2 hp
    rw [buildModel_of_composition hb hc hp]
    exact steps.composition hb hc hp (htotal ▸ hparts)
  case record =>
    intro name generated schema names hb hc hp hfields
    rw [buildModel_of_record hb hc hp]
    exact steps.record hb hc hp hfields
  case scalar =>
    intro name generated schema names hb hc hp hs
    have hp := Bool.eq_false_iff.2 hp
    rw [buildModel_of_scalar hb hc hp hs]
    exact steps.scalar hb hc hp hs
  case listOwn =>
    intro name generated schema names hb hc hp hs ha token hr
    have hp := Bool.eq_false_iff.2 hp
    have hs := Bool.eq_false_iff.2 hs
    rw [buildModel_of_array hb hc hp hs ha]
    refine steps.array hb hc hp hs ha ?_
    rw [bindSchema_of_type hr]
    exact steps.own hr
  case listInline =>
    intro name generated schema names hb hc hp hs ha inner depth hr itemName names' hclaim hinner
    have hp := Bool.eq_false_iff.2 hp
    have hs := Bool.eq_false_iff.2 hs
    obtain rfl : (names.claim (name ++ "Item")).1 = itemName := by rw [hclaim]
    obtain rfl : (names.claim (name ++ "Item")).2 = names' := by rw [hclaim]
    rw [buildModel_of_array hb hc hp hs ha]
    refine steps.array hb hc hp hs ha ?_
    rw [bindSchema_of_anonymous hr]
    exact steps.inline hr hinner
  case map =>
    intro name generated schema names hb hc hp hs ha value hadd
    have hp := Bool.eq_false_iff.2 hp
    have hs := Bool.eq_false_iff.2 hs
    rw [buildModel_of_map hb hc hp hs ha hadd]
    exact steps.map hb hc hp hs ha hadd
  case plain =>
    intro name generated schema names hb hc hp hs ha hadd
    have hp := Bool.eq_false_iff.2 hp
    have hs := Bool.eq_false_iff.2 hs
    rw [buildModel_of_plain hb hc hp hs ha hadd]
    exact steps.plain hb hc hp hs ha hadd
  case noField =>
    intro owner required names
    rw [buildFields]
    exact steps.noField
  case field =>
    intro owner required names key schema rest type htype hrest
    rw [buildFields_cons]
    exact steps.field htype hrest
  case own =>
    intro preferred schema names token hr
    rw [bindSchema_of_type hr]
    exact steps.own hr
  case inline =>
    intro preferred schema names inner depth hr name names' hclaim hinner
    obtain rfl : (names.claim preferred).1 = name := by rw [hclaim]
    obtain rfl : (names.claim preferred).2 = names' := by rw [hclaim]
    rw [bindSchema_of_anonymous hr]
    exact steps.inline hr hinner
  case noMember =>
    intro wished index names
    rw [buildMembers]
    exact steps.noMember
  case memberReference =>
    intro wished index names member rest _ h hrest
    rw [buildMembers_of_reference h]
    exact steps.memberReference h hrest
  case memberInline =>
    intro wished index names member rest hb h name names' hclaim built hmember hrest
    obtain rfl : (names.claim (wished index)).1 = name := by rw [hclaim]
    obtain rfl : (names.claim (wished index)).2 = names' := by rw [hclaim]
    rw [buildMembers_of_inline hb h]
    exact steps.memberInline hb h hmember hrest
  case memberOther =>
    intro wished index names member rest hb h hrest
    have h := Bool.eq_false_iff.2 h
    rw [buildMembers_of_other hb h]
    exact steps.memberOther hb h hrest

end ClientForge
