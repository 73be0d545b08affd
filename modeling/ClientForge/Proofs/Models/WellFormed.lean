/-
  Well-formed models.

  How a model renders is read off its fields, its children, its alias and whether it is an
  enumeration, and several ways would fit some combinations of these: a model with fields and an alias
  could be a record or another name.  Building a model never gives such a combination.  Each kind of
  schema fills in its own parts and leaves the others empty, and `Model.WellFormed` says so clause by
  clause:

  * another name for a type has no fields, and has children only as an enumeration;
  * an enumeration is another name for a scalar, and its children are the texts of its literals, null
    excepted;
  * a field is stored under its own key, has the place of a body, and is required if the schema lists
    its key;
  * a record has a field for each property, and for children the models that bare references among its
    properties name.

  What the parts hold is told by the schema that the model was made of, so the property is one of a
  model and a schema, and that every model was made of some schema of the document is part of the
  result (`Document.extract_wellFormed`).

  A list of required names may also have names that no property has.  These change nothing
  (`buildModel_required`): a list that says the same of the properties makes the same models, made-up
  ones included, because nothing but the fields reads it.
-/
import ClientForge.Proofs.Hoisting.Origin
import ClientForge.Proofs.Models.ByValue

namespace ClientForge

/-! ## The invariant -/

/-- Every literal but null has a text. -/
theorem Literal.text?_eq_none_iff {literal : Literal} : literal.text? = none ↔ literal = .null := by
  cases literal <;> simp [text?]

/-- `model.WellFormed schema` — the parts of a model made of the schema fit together, and what they
hold is what the schema says. -/
structure Model.WellFormed (model : Model) (schema : Schema) : Prop where
  /-- Another name for a type has no fields. -/
  fieldless : model.aliasOf.isSome = true → model.fields.isEmpty = true
  /-- Only as an enumeration has it children. -/
  childless : model.aliasOf.isSome = true → model.isEnum = false → model.children.isEmpty = true
  /-- An enumeration is another name for a scalar. -/
  scalar : model.SoundEnum
  /-- Its children are the texts of the literals that are not null. -/
  literals : model.isEnum = true → ∃ literals, schema.literals = some literals ∧
    ∀ text, text ∈ model.children ↔
      ∃ literal ∈ literals, literal ≠ .null ∧ literal.text? = some text
  /-- A field is stored under its own key, goes into the body, and is required if its key is
  listed. -/
  stored : ∀ key field, model.fields.get? key = some field → field.key = key ∧
    field.location = .body ∧ (field.required = true ↔ key ∈ schema.required.getD [])
  /-- Where there are fields, they are those of the properties. -/
  properties : model.fields.isEmpty = false →
    ∀ key, model.fields.contains key = true ↔ key ∈ schema.ownProperties.map Prod.fst
  /-- The children of a record are what its properties that are just references name. -/
  children : model.shape = .struct → ∀ name, name ∈ model.children ↔
    ∃ entry ∈ schema.ownProperties, ∃ reference,
      entry.2.bareReference? = some reference ∧ name = Schema.referencedType reference

/-! ## Fields -/

/-- Of two fields with one key the later is stored. -/
theorem get?_foldl_insert (fields : List Field) (table : Table Field) (key : String) :
    (fields.foldl (fun table field => table.insert field.key field) table).get? key =
      (fields.reverse.find? fun field => field.key == key).or (table.get? key) := by
  induction fields generalizing table with
  | nil => rfl
  | cons first rest ih =>
    rw [List.foldl_cons, ih, Table.get?_insert, List.reverse_cons, List.find?_append,
      Option.or_assoc]
    congr 1
    by_cases h : key = first.key
    · simp [h]
    · simp [h, Ne.symm h]

section Fields

variable {owner : String} {required : List String} {properties : List (String × Schema)}
  {names : Names}

/-- There is a field for each property, in their order. -/
theorem keys_buildFields :
    (buildFields owner required properties names).result.map (fun entry => entry.1.key) =
      properties.map Prod.fst := by
  induction properties generalizing names with
  | nil =>
    rw [buildFields]
    rfl
  | cons entry rest ih =>
    obtain ⟨key, schema⟩ := entry
    rw [buildFields_cons, List.map_cons, List.map_cons, ih]
    rfl

/-- A field has the place of a body, and is required if its key is listed. -/
theorem field_of_mem_buildFields {entry : Field × Option String}
    (h : entry ∈ (buildFields owner required properties names).result) :
    entry.1.location = .body ∧ entry.1.required = required.contains entry.1.key := by
  induction properties generalizing names with
  | nil =>
    rw [buildFields] at h
    cases h
  | cons property rest ih =>
    obtain ⟨key, schema⟩ := property
    rw [buildFields_cons] at h
    rcases List.mem_cons.1 h with rfl | h
    · exact ⟨rfl, rfl⟩
    · exact ih h

/-- The children of fields are what the bare references among the properties name. -/
theorem mem_children_buildFields {name : String} :
    name ∈ (buildFields owner required properties names).result.filterMap Prod.snd ↔
      ∃ entry ∈ properties, ∃ reference,
        entry.2.bareReference? = some reference ∧ name = Schema.referencedType reference := by
  -- One property at a time; the names already taken only matter to what is hoisted.
  induction properties generalizing names with
  | nil =>
    rw [buildFields]
    simp
  | cons property rest ih =>
    obtain ⟨key, schema⟩ := property
    rw [buildFields_cons, List.exists_mem_cons_iff]
    cases hb : schema.bareReference? with
    | none =>
      have hbare : schema.isBareReference = false := Schema.bareReference?_eq_none_iff.1 hb
      rw [List.filterMap_cons_none (by simp [Field.ofProperty, hbare]), ih]
      simp
    -- A bare reference is typed by the name it refers to, which is the child.
    | some reference =>
      have hbare : schema.isBareReference = true := (Schema.bareReference?_eq_some_iff.1 hb).1
      have htype : (bindSchema (Naming.hoistedName owner key) schema names).result =
          .named (Schema.referencedType reference) := by
        rw [bindSchema_of_type (Schema.resolve_of_bareReference hb)]
      have hchild : (Field.ofProperty required key schema
          (bindSchema (Naming.hoistedName owner key) schema names).result).2 =
            some (Schema.referencedType reference) := by
        simp [Field.ofProperty, hbare, htype, TypeToken.innermost?]
      rw [List.filterMap_cons_some hchild, List.mem_cons, ih]
      simp

/-- Of the list of the required only what it says of the properties counts. -/
theorem buildFields_congr {required' : List String}
    (h : ∀ key ∈ properties.map Prod.fst, key ∈ required' ↔ key ∈ required) :
    buildFields owner required' properties names = buildFields owner required properties names := by
  induction properties generalizing names with
  | nil => rw [buildFields, buildFields]
  | cons property rest ih =>
    obtain ⟨key, schema⟩ := property
    have hkey : required'.contains key = required.contains key := by
      rw [Bool.eq_iff_iff, List.contains_iff_mem, List.contains_iff_mem]
      exact h key List.mem_cons_self
    have hrest (names : Names) :
        buildFields owner required' rest names = buildFields owner required rest names :=
      ih fun other hother => h other (List.mem_cons_of_mem _ hother)
    simp only [buildFields_cons, hrest, Field.ofProperty, hkey]

end Fields

/-! ## The models that building gives -/

namespace Model

variable {name : String} {generated : Bool} {schema : Schema}

/-- A record is what has fields and is not another name. -/
theorem shape_eq_struct_iff {model : Model} :
    model.shape = .struct ↔ model.aliasOf = none ∧ model.fields.isEmpty = false := by
  cases ha : model.aliasOf with
  | none => cases hf : model.fields.isEmpty with
    | false => simp [shape, ha, hf]
    | true => cases hc : model.children.isEmpty <;> simp [shape, ha, hf, hc]
  | some token => cases he : model.isEnum <;> simp [shape, ha, he]

/-- A model without fields that is no enumeration, with an alias only in place of children. -/
theorem wellFormed_of_fieldless {model : Model} (hfields : model.fields = .empty)
    (henum : model.isEnum = false)
    (hchildren : model.aliasOf.isSome = true → model.children.isEmpty = true) :
    -- Without fields, without literals, and with an alias that has no children, every clause but
    -- the first two is about nothing.
    model.WellFormed schema where
  fieldless _ := by
    rw [hfields]
    rfl
  childless ha _ := hchildren ha
  scalar he := by
    rw [henum] at he
    cases he
  literals he := by
    rw [henum] at he
    cases he
  stored key field h := by
    rw [hfields] at h
    cases h
  properties h := by
    rw [hfields] at h
    cases h
  children h := by
    have hsome := (shape_eq_struct_iff.1 h).2
    rw [hfields] at hsome
    cases hsome

/-- A composition is well formed. -/
theorem wellFormed_ofChildren (union : Bool) (children : List String) :
    ((unshaped name generated schema).ofChildren union children).WellFormed schema := by
  refine wellFormed_of_fieldless rfl rfl fun ha => ?_
  cases children with
  | nil => rfl
  | cons child rest => cases ha

/-- Another name for a scalar. -/
theorem wellFormed_ofScalar :
    ((unshaped name generated schema).ofScalar schema).WellFormed schema where
  fieldless _ := rfl
  -- Without literals a scalar has no children; its literals are read where it has some.
  childless _ he := by
    have hsome : schema.literals.isSome = false := he
    have hnone : schema.literals = none := Option.isNone_iff_eq_none.1
      (Option.isSome_eq_false_iff.1 hsome)
    have htexts : schema.literalTexts = [] := by
      rw [Schema.literalTexts, hnone]
      rfl
    show ((unshaped name generated schema).children.insertAll schema.literalTexts).isEmpty = true
    rw [htexts]
    rfl
  scalar he := by
    have hsome : schema.literals.isSome = true := he
    show ∃ p, some schema.aliasToken = some (.primitive p)
    unfold Schema.aliasToken
    split
    · exact ⟨_, rfl⟩
    · rw [if_pos hsome]
      exact ⟨_, rfl⟩
  literals he := by
    have hsome : schema.literals.isSome = true := he
    obtain ⟨literals, hliterals⟩ := Option.isSome_iff_exists.1 hsome
    refine ⟨literals, hliterals, fun text => ?_⟩
    show text ∈ Names.empty.insertAll schema.literalTexts ↔ _
    rw [Names.mem_insertAll, Schema.literalTexts, hliterals, Option.getD_some, List.mem_filterMap]
    -- The children are the texts of the literals, and null is the one literal without a text.
    constructor
    · rintro (h | ⟨literal, hmem, htext⟩)
      · exact absurd h Names.not_mem_empty
      · refine ⟨literal, hmem, fun hnull => ?_, htext⟩
        rw [Literal.text?_eq_none_iff.2 hnull] at htext
        cases htext
    · rintro ⟨literal, hmem, -, htext⟩
      exact Or.inr ⟨literal, hmem, htext⟩
  stored key field h := by cases h
  properties h := by cases h
  children h := by cases (shape_eq_struct_iff.1 h).1

/-- A record of the properties. -/
theorem wellFormed_withFields (description : Option String) (taken : Names) :
    (withFields { name, generated, description } (buildFields name (schema.required.getD [])
      schema.ownProperties taken).result).WellFormed schema := by
  let built := (buildFields name (schema.required.getD []) schema.ownProperties taken).result
  let model : Model := withFields { name, generated, description } built
  -- Fields are put under their keys from the left, so the last one of a key is found.
  have hget : ∀ key, model.fields.get? key =
      (built.map Prod.fst).reverse.find? fun field => field.key == key := by
    intro key
    rw [fields_withFields, get?_foldl_insert, Table.get?_empty, Option.or_none]
  have hkeys : (built.map Prod.fst).map Field.key = schema.ownProperties.map Prod.fst := by
    rw [List.map_map]
    exact keys_buildFields
  exact {
    fieldless := fun ha => by cases ha
    childless := fun ha => by cases ha
    scalar := fun he => by cases he
    literals := fun he => by cases he
    stored := by
      intro key field h
      rw [hget] at h
      have hkey := List.find?_some h
      obtain rfl : field.key = key := eq_of_beq (by simpa only using hkey)
      obtain ⟨entry, hentry, rfl⟩ :=
        -- A field that is found was built from a property, and says what that property says.
        List.mem_map.1 (List.mem_reverse.1 (List.mem_of_find?_eq_some h))
      obtain ⟨hbody, hrequired⟩ := field_of_mem_buildFields hentry
      exact ⟨rfl, hbody, by rw [hrequired, List.contains_iff_mem]⟩
    properties := by
      intro _ key
      rw [← hkeys, Table.contains, hget, List.find?_isSome]
      simp only [List.mem_reverse, beq_iff_eq, List.mem_map (f := Field.key)]
    children := by
      intro _ name
      show name ∈ Names.empty.insertAll (built.filterMap Prod.snd) ↔ _
      rw [Names.mem_insertAll, ← mem_children_buildFields]
      exact or_iff_right Names.not_mem_empty }

end Model

/-- **The model of a schema is well formed.** -/
theorem buildModel_wellFormed (name : String) (generated : Bool) (schema : Schema) (names : Names) :
    (buildModel name generated schema names).result.WellFormed schema := by
  -- The cases are those of the builder, in its order: reference, composition, record, scalar or
  -- enumeration, list, map, and the rest.
  cases hb : schema.bareReference? with
  | some reference =>
    rw [buildModel_of_reference hb]
    exact Model.wellFormed_of_fieldless rfl rfl nofun
  | none => cases hc : schema.composition? with
    | some composition =>
      obtain ⟨members, union⟩ := composition
      cases hp : schema.hasProperties with
      | true =>
        rw [buildModel_of_extended hb hc hp]
        exact Model.wellFormed_ofChildren ..
      | false =>
        rw [buildModel_of_composition hb hc hp]
        exact Model.wellFormed_ofChildren ..
    | none => cases hp : schema.hasProperties with
      | true =>
        rw [buildModel_of_record hb hc hp]
        exact Model.wellFormed_withFields ..
      | false => cases hs : schema.isScalar || schema.literals.isSome with
        | true =>
          rw [buildModel_of_scalar hb hc hp hs]
          exact Model.wellFormed_ofScalar
        | false =>
          -- From here on the model is an alias or nothing, without fields.
          by_cases ha : schema.primaryType? = some "array"
          · rw [buildModel_of_array hb hc hp hs ha]
            exact Model.wellFormed_of_fieldless rfl rfl fun _ => rfl
          · by_cases hadd : ∃ value, schema.additional = some (.schema value)
            · obtain ⟨value, hadd⟩ := hadd
              rw [buildModel_of_map hb hc hp hs ha hadd]
              exact Model.wellFormed_of_fieldless rfl rfl fun _ => rfl
            · rw [buildModel_of_plain hb hc hp hs ha (not_exists.1 hadd)]
              exact Model.wellFormed_of_fieldless rfl rfl nofun

/-- Every model that was made of a schema is well formed. -/
theorem Model.MadeOf.wellFormed {schema : Schema} {model : Model} (h : model.MadeOf schema) :
    model.WellFormed schema := by
  cases h with
  | component name taken => exact buildModel_wellFormed name false schema taken
  | inline name taken => exact buildModel_wellFormed name true schema taken
  | ownFields name taken => exact Model.wellFormed_withFields ..

/-! ## Names that no property has -/

/-- `schema.Requires required` — of the properties, those in the list are required. -/
def Schema.Requires (schema : Schema) (required : List String) : Prop :=
  ∀ key ∈ schema.ownProperties.map Prod.fst, key ∈ required ↔ key ∈ schema.required.getD []

section Requires

variable {schema : Schema} {required : List String}

/-- What is built of a schema is told by which of its properties are required. -/
theorem buildModel_required (name : String) (generated : Bool) (names : Names)
    (h : schema.Requires required) :
    buildModel name generated { schema with required := some required } names =
      buildModel name generated schema names := by
  let other : Schema := { schema with required := some required }
  have hfields : ∀ owner taken,
      buildFields owner (other.required.getD []) other.ownProperties taken =
        buildFields owner (schema.required.getD []) schema.ownProperties taken :=
    fun _ _ => buildFields_congr h
  -- nothing but the fields reads the list, so every other question has the same answer
  show buildModel name generated other names = _
  cases hb : schema.bareReference? with
  | some reference =>
    have hb' : other.bareReference? = some reference := hb
    rw [buildModel_of_reference hb, buildModel_of_reference hb']
    rfl
  | none =>
    have hb' : other.bareReference? = none := hb
    cases hc : schema.composition? with
    | some composition =>
      obtain ⟨members, union⟩ := composition
      have hc' : other.composition? = some (members, union) := hc
      rw [buildModel_of_composed hb hc, buildModel_of_composed hb' hc']
      simp only [hfields]
      rfl
    | none =>
      have hc' : other.composition? = none := hc
      rw [buildModel_of_simple hb hc, buildModel_of_simple hb' hc']
      simp only [hfields]
      cases hp : schema.hasProperties with
      | true =>
        have hp' : other.hasProperties = true := hp
        rw [hp', if_pos rfl]
        rfl
      | false =>
        have hp' : other.hasProperties = false := hp
        have hresolve : other.resolve = schema.resolve := by
          rw [Schema.resolve_of_simple hc hp, Schema.resolve_of_simple hc' hp']
          rfl
        rw [hp', bindSchema, bindSchema, hresolve]
        rfl

/-- **Names that no property has change nothing:** a list that says the same of the properties
makes the same model. -/
theorem Model.MadeOf.of_requires {model : Model} (hmade : model.MadeOf schema)
    (h : schema.Requires required) : model.MadeOf { schema with required := some required } := by
  cases hmade with
  | component name taken =>
    rw [← buildModel_required name false taken h]
    exact .component name taken
  | inline name taken hneeds =>
    rw [← buildModel_required name true taken h]
    exact .inline name taken hneeds
  | ownFields name taken hc =>
    rw [← buildFields_congr h]
    exact .ownFields name taken hc

end Requires

/-! ## The models of a run -/

/-- Every model of the document's components, and every one made up for its endpoints, was made of
one of the document's schemas, is well formed, and would be the same had the schema listed other
names that no property has as required. -/
def Extraction.ModelsWellFormed (doc : Document) (extraction : Extraction) : Prop :=
  ∀ model, model ∈ (Graph.ofDocument doc).toList ∨ model ∈ extraction.synthesized →
    ∃ outer ∈ doc.outerSchemas, ∃ schema : Schema, schema.Within outer ∧
      model.MadeOf schema ∧ model.WellFormed schema ∧
      ∀ required, schema.Requires required → model.MadeOf { schema with required := some required }

/-- The models of a document's graph were built for it. -/
theorem Document.mem_builtModels_of_mem_toList {doc : Document} {model : Model}
    (h : model ∈ (Graph.ofDocument doc).toList) : model ∈ doc.builtModels := by
  have hget := Graph.mem_toList.1 h
  rw [get?_ofDocument] at hget
  exact List.mem_of_find?_eq_some hget

/-- **The models of a run are well formed.** -/
theorem Document.extract_wellFormed {doc : Document} {routes : List String}
    {extraction : Extraction} (h : doc.extract routes (Graph.ofDocument doc) = .ok extraction) :
    extraction.ModelsWellFormed doc := by
  intro model hmem
  have hmade : ∃ outer ∈ doc.outerSchemas, ∃ schema : Schema,
      schema.Within outer ∧ model.MadeOf schema := by
    rcases hmem with hmem | hmem
    · obtain ⟨-, -, -, hmade⟩ := stemsFrom_of_mem_builtModels (mem_builtModels_of_mem_toList hmem)
      exact hmade
    · obtain ⟨-, -, -, hmade⟩ := stemsFrom_of_mem_synthesized h hmem
      exact hmade
  obtain ⟨outer, houter, schema, hin, hmade⟩ := hmade
  exact ⟨outer, houter, schema, hin, hmade, hmade.wellFormed, fun _ => hmade.of_requires⟩

/-- The models of the shop are well formed, in both phases. -/
theorem Document.extract_wellFormed_shop :
    ∃ extraction, shopDocument.extract [] (Graph.ofDocument shopDocument) = .ok extraction ∧
      extraction.ModelsWellFormed shopDocument := by
  have hok : (shopDocument.extract [] (Graph.ofDocument shopDocument)).isOk = true := by
    decide +kernel
  obtain ⟨extraction, h⟩ := exists_of_isOk hok
  exact ⟨extraction, h, Document.extract_wellFormed h⟩

end ClientForge
