/-
  The schemas of a document and the references inside them.

  A schema has schemas as its parts: its properties, its items, its further values and the members
  of its compositions (`Schema.parts`).  To stand inside a schema is to be it, or to stand inside one
  of these (`Schema.Within`).  A document has schemas in many places — among its components, in
  payloads of responses and of requests, in parameters of operations, of routes and of the
  components — and `Document.outerSchemas` lists those that are not parts of others.

  What a schema stands for as a value stays inside it, in two senses that are one statement
  (`Schema.resolve_within`):

  1. **Types** — a type that the schema stands for mentions nothing but what references inside the
     schema name;
  2. **Shapes** — a schema that is left to be given a name is the schema itself or one of its parts.

  Both are needed at once because a resolution asks parts for what they stand for and hands the answer
  on, so the property is one of resolutions (`Schema.Covers`) and the induction is that along a
  resolution.  From it follows what a document has to promise so that every type in the generated
  code is there: its references, however deep inside a schema, lead to schemas that are components
  (`Document.RefersToSchemas`), and so they name what the document names.

  The last section says where in a document the schema of a payload or of a parameter stands, for
  each of the places from which building takes one.
-/
import ClientForge.Model.OfDocument
import ClientForge.Proofs.Document.Resolution
import ClientForge.Proofs.Graph.Lookup
import ClientForge.Proofs.Models.References

namespace ClientForge

/-! ## Schemas inside schemas -/

namespace Schema

/-- The schemas that are direct parts of a schema. -/
def parts (schema : Schema) : List Schema :=
  schema.ownProperties.map Prod.snd ++ schema.items.toList ++ schema.allOf.getD []
    ++ schema.oneOf.getD [] ++ schema.anyOf.getD []
    ++ match schema.additional with
      | some (.schema value) => [value]
      | _ => []

/-- `inner.Within outer` — the one schema is the other, or stands inside one of its parts. -/
inductive Within (inner : Schema) : Schema → Prop
  | refl : Within inner inner
  | part {outer part : Schema} (h : part ∈ outer.parts) (hin : Within inner part) :
      Within inner outer

/-- To stand inside is transitive. -/
theorem Within.trans {inner middle outer : Schema} (h : inner.Within middle)
    (h' : middle.Within outer) : inner.Within outer := by
  induction h' with
  | refl => exact h
  | part hpart _ ih => exact .part hpart ih

/-- One step into a schema is into one of its parts. -/
theorem within_iff {inner outer : Schema} :
    inner.Within outer ↔ inner = outer ∨ ∃ part ∈ outer.parts, inner.Within part := by
  constructor
  · intro h
    cases h with
    | refl => exact Or.inl rfl
    | part hpart hin => exact Or.inr ⟨_, hpart, hin⟩
  · rintro (rfl | ⟨part, hpart, hin⟩)
    · exact .refl
    · exact .part hpart hin

/-- A property stands inside the object. -/
theorem within_of_property {schema part : Schema} {key : String}
    (h : (key, part) ∈ schema.ownProperties) : part.Within schema := by
  refine .part ?_ .refl
  simp only [parts, List.mem_append]
  exact Or.inl (Or.inl (Or.inl (Or.inl (Or.inl (List.mem_map.2 ⟨_, h, rfl⟩)))))

/-- The items stand inside the list. -/
theorem within_of_items {schema part : Schema} (h : schema.items = some part) :
    part.Within schema := by
  refine .part ?_ .refl
  simp [parts, h]

/-- The further values stand inside the map. -/
theorem within_of_additional {schema part : Schema} (h : schema.additional = some (.schema part)) :
    part.Within schema := by
  refine .part ?_ .refl
  simp [parts, h]

/-- A member stands inside the composition, whichever of the three kinds it is. -/
theorem within_of_member {schema part : Schema} {members : List Schema} {union : Bool}
    (hc : schema.composition? = some (members, union)) (h : part ∈ members) :
    part.Within schema := by
  refine .part ?_ .refl
  -- a composition has one list of members that counts, and that is one of the three
  have hlists : part ∈ schema.allOf.getD [] ∨ part ∈ schema.oneOf.getD [] ∨
      part ∈ schema.anyOf.getD [] := by
    unfold composition? at hc
    split at hc
    · rename_i hall
      cases hc
      exact Or.inl (by rw [hall]; exact h)
    · obtain ⟨found, hfound, heq⟩ := Option.map_eq_some_iff.1 hc
      cases heq
      rcases Option.or_eq_some_iff.1 hfound with hone | ⟨-, hany⟩
      · exact Or.inr (Or.inl (by rw [hone]; exact h))
      · exact Or.inr (Or.inr (by rw [hany]; exact h))
  simp only [parts, List.mem_append]
  rcases hlists with h | h | h
  · exact Or.inl (Or.inl (Or.inl (Or.inr h)))
  · exact Or.inl (Or.inl (Or.inr h))
  · exact Or.inl (Or.inr h)

/-! ## What references name -/

/-- `schema.Refers name` — a reference somewhere inside the schema names the type. -/
def Refers (schema : Schema) (name : String) : Prop :=
  ∃ inner : Schema, inner.Within schema ∧ ∃ reference, inner.reference = some reference ∧
    name = referencedType reference

/-- What is named inside a part is named inside the whole. -/
theorem Refers.of_within {schema outer : Schema} {name : String} (h : schema.Refers name)
    (hin : schema.Within outer) : outer.Refers name := by
  obtain ⟨inner, hinner, hreference⟩ := h
  exact ⟨inner, hinner.trans hin, hreference⟩

/-- A schema names what its own reference names. -/
theorem refers_of_reference {schema : Schema} {reference : String}
    (h : schema.reference = some reference) : schema.Refers (referencedType reference) :=
  ⟨schema, .refl, reference, h, rfl⟩

/-- A bare reference is a reference, and the schema says nothing else. -/
theorem bareReference?_eq_some_iff {schema : Schema} {reference : String} :
    schema.bareReference? = some reference ↔
      schema.isBareReference = true ∧ schema.reference = some reference := by
  rw [bareReference?, Option.ite_none_right_eq_some]

/-- Whether there is a bare reference is one question, whatever it is. -/
theorem bareReference?_eq_none_iff {schema : Schema} :
    schema.bareReference? = none ↔ schema.isBareReference = false := by
  cases hb : schema.isBareReference with
  | false => simp [bareReference?, hb]
  | true =>
    have href : schema.reference.isSome = true := by
      simp only [isBareReference, Bool.and_eq_true] at hb
      exact hb.1.1.1.1.1.1
    obtain ⟨reference, href⟩ := Option.isSome_iff_exists.1 href
    simp [bareReference?, hb, href]

/-- A bare reference names its type. -/
theorem refers_of_bareReference {schema : Schema} {reference : String}
    (h : schema.bareReference? = some reference) : schema.Refers (referencedType reference) :=
  refers_of_reference (bareReference?_eq_some_iff.1 h).2

/-- `schema.Covers resolution` — the type mentions what references inside the schema name, and a
schema that needs a name is the schema or stands inside it. -/
def Covers (schema : Schema) : Resolution → Prop
  | .type token => ∀ name, token.Mentions name → schema.Refers name
  | .anonymous inner _ => inner.Within schema

/-- What stays inside a part stays inside the whole. -/
theorem Covers.of_within {schema outer : Schema} {resolution : Resolution}
    (h : schema.Covers resolution) (hin : schema.Within outer) : outer.Covers resolution := by
  cases resolution with
  | type token => exact fun name hm => (h name hm).of_within hin
  | anonymous inner depth => exact h.trans hin

/-- A list of what the schema stands for mentions no more, and leaves no other schema for a name. -/
theorem Covers.inArray {schema : Schema} {resolution : Resolution} (h : schema.Covers resolution) :
    schema.Covers resolution.inArray := by
  cases resolution with
  | type token =>
    intro name hm
    cases hm with
    | array hm => exact h name hm
  | anonymous inner depth => exact h

/-- So does a map: the value of one that would need a name is any value. -/
theorem Covers.mapValue {schema : Schema} {resolution : Resolution} (h : schema.Covers resolution)
    {name : String} (hm : resolution.mapValue.Mentions name) : schema.Refers name := by
  cases resolution with
  | type token => exact h name hm
  | anonymous inner depth => cases hm

/-- A scalar mentions nothing. -/
theorem covers_scalarToken (schema : Schema) (type : String) :
    schema.Covers (.type (schema.scalarToken type)) := by
  intro name hm
  unfold scalarToken at hm
  split at hm <;> cases hm

/-- A reference mentions the type it names. -/
theorem covers_named {schema : Schema} {reference : String}
    (h : schema.reference = some reference) :
    schema.Covers (.type (.named (referencedType reference))) := by
  intro name hm
  cases hm
  exact refers_of_reference h

/-- Any value mentions nothing, nor do lists and maps of any value. -/
theorem covers_untyped (schema : Schema) {token : TypeToken}
    (h : token = .any ∨ token = .array .any ∨ token = .map .any) :
    schema.Covers (.type token) := by
  intro name hm
  rcases h with rfl | rfl | rfl
  · cases hm
  · cases hm with
    | array hm => cases hm
  · cases hm with
    | map hm => cases hm

/-- **A resolution stays inside the schema.** -/
theorem resolve_within (schema : Schema) : schema.Covers schema.resolve := by
  refine resolve_induct (motive := Covers) ?own ?single ?reference ?items ?values ?scalar ?untyped
    schema
  case own =>
    intro schema _
    exact Within.refl
  case single =>
    intro schema part members union hc _ hpart ih
    have hmem : part ∈ members.filter (!·.isNull) := hpart ▸ List.mem_singleton_self part
    -- the one member that is not null is a member
    exact ih.of_within (within_of_member hc (List.mem_filter.1 hmem).1)
  case reference =>
    intro schema reference _ _ href
    exact covers_named href
  case items =>
    intro schema item _ _ _ _ hitems ih
    exact (ih.of_within (within_of_items hitems)).inArray
  case values =>
    intro schema value _ _ _ _ hadditional ih name hm
    cases hm with
    | map hm => exact (ih.of_within (within_of_additional hadditional)).mapValue hm
  case scalar =>
    intro schema type _ _ _ _
    exact covers_scalarToken schema type
  case untyped =>
    intro schema token h
    exact covers_untyped schema h

/-- The first half: the types in what a schema stands for. -/
theorem refers_of_resolve {schema : Schema} {token : TypeToken} {name : String}
    (h : schema.resolve = .type token) (hm : token.Mentions name) : schema.Refers name := by
  have hcovers := resolve_within schema
  rw [h] at hcovers
  exact hcovers name hm

/-- The second half: the schema that is left for a name. -/
theorem within_of_resolve {schema inner : Schema} {depth : Nat}
    (h : schema.resolve = .anonymous inner depth) : inner.Within schema := by
  have hcovers := resolve_within schema
  rw [h] at hcovers
  exact hcovers

/-- A map as an alias mentions what its values do. -/
theorem refers_of_mapToken {schema : Schema} {name : String} (hm : schema.mapToken.Mentions name) :
    schema.Refers name := by
  unfold mapToken at hm
  cases hm with
  | map hm =>
    split at hm
    · rename_i value hadd
      exact ((resolve_within value).of_within (within_of_additional hadd)).mapValue hm
    · cases hm

/-- A schema that says nothing but the reference composes nothing and lists no properties. -/
theorem simple_of_bareReference {schema : Schema} {reference : String}
    (h : schema.bareReference? = some reference) :
    schema.composition? = none ∧ schema.hasProperties = false := by
  have hbare := (bareReference?_eq_some_iff.1 h).1
  simp only [isBareReference, Bool.and_eq_true, Option.isNone_iff_eq_none] at hbare
  obtain ⟨⟨⟨⟨⟨⟨-, -⟩, hproperties⟩, -⟩, hall⟩, hone⟩, hany⟩ := hbare
  constructor
  · simp [composition?, hall, hone, hany]
  · simp [hasProperties, ownProperties, hproperties]

/-- It is the type that it names, too. -/
theorem resolve_of_bareReference {schema : Schema} {reference : String}
    (h : schema.bareReference? = some reference) :
    schema.resolve = .type (.named (referencedType reference)) := by
  obtain ⟨hc, hp⟩ := simple_of_bareReference h
  exact resolve_of_reference (bareReference?_eq_some_iff.1 h).2 hc hp

end Schema

/-! ## The schemas of a document -/

/-- The schemas of payloads, whatever their media types. -/
def payloadSchemas (content : Option Content) : List Schema :=
  (content.getD .empty).values.filterMap MediaType.schema

/-- The schemas on an operation: of its parameters, of what it takes and of what it gives. -/
def Operation.schemas (op : Operation) : List Schema :=
  (op.parameters.getD []).filterMap Parameter.schema
    ++ op.requestBody.toList.flatMap (fun body => payloadSchemas body.content)
    ++ op.responses.values.flatMap fun response => payloadSchemas response.content

/-- The schemas on a route. -/
def PathItem.schemas (item : PathItem) : List Schema :=
  (item.parameters.getD []).filterMap Parameter.schema
    ++ item.operations.flatMap fun operation => operation.2.schemas

namespace Document

/-- The schemas of a document that are not parts of others. -/
def outerSchemas (doc : Document) : List Schema :=
  doc.schemas.values
    ++ doc.responses.values.flatMap (fun response => payloadSchemas response.content)
    ++ doc.requestBodies.values.flatMap (fun body => payloadSchemas body.content)
    ++ doc.parameters.values.filterMap Parameter.schema
    ++ doc.paths.values.flatMap PathItem.schemas

/-- Every reference of a schema, however deep inside, leads to a schema that is a component: its
last segment is the key of one. -/
def RefersToSchemas (doc : Document) : Prop :=
  ∀ schema ∈ doc.outerSchemas, ∀ inner : Schema, inner.Within schema →
    ∀ reference, inner.reference = some reference →
      doc.schemas.contains (Naming.referencedKey reference) = true

/-- The names that the document gives to schemas. -/
def GivesName (doc : Document) (name : String) : Prop := name ∈ doc.namedSchemas.map Prod.fst

/-- A schema component has the name of its key. -/
theorem mem_namedSchemas_of_schema {doc : Document} {key : String} {schema : Schema}
    (h : doc.schemas.get? key = some schema) :
    (Naming.typeName key, schema) ∈ doc.namedSchemas := by
  simp only [namedSchemas, List.mem_append, List.mem_map]
  exact Or.inl (Or.inl ⟨(key, schema), Table.get?_eq_some_iff.1 h, rfl⟩)

/-- So the document gives that name. -/
theorem givesName_of_schema {doc : Document} {key : String} (h : doc.schemas.contains key = true) :
    doc.GivesName (Naming.typeName key) := by
  obtain ⟨schema, hget⟩ := Option.isSome_iff_exists.1 h
  exact List.mem_map_of_mem (mem_namedSchemas_of_schema hget)

/-- **References name what the document names,** if they lead to schemas. -/
theorem RefersToSchemas.givesName {doc : Document} (h : doc.RefersToSchemas) {schema : Schema}
    (hmem : schema ∈ doc.outerSchemas) {name : String} (href : schema.Refers name) :
    doc.GivesName name := by
  obtain ⟨inner, hin, reference, hreference, rfl⟩ := href
  exact givesName_of_schema (h schema hmem inner hin reference hreference)

end Document

/-! ## Where the schemas stand -/

/-- The schema of the payload that is taken, the one in JSON, is among those of the payload. -/
theorem mem_payloadSchemas {content : Option Content} {schema : Schema}
    (h : (content.bind Content.json?).bind MediaType.schema = some schema) :
    schema ∈ payloadSchemas content := by
  obtain ⟨media, hmedia, hschema⟩ := Option.bind_eq_some_iff.1 h
  obtain ⟨content, rfl, hjson⟩ := Option.bind_eq_some_iff.1 hmedia
  obtain ⟨key, -, hget⟩ := Option.bind_eq_some_iff.1 hjson
  exact List.mem_filterMap.2 ⟨media, Table.mem_values_of_get? hget, hschema⟩

/-- The same for a payload component whose schema is not just a reference. -/
theorem mem_payloadSchemas_of_payloadSchema? {content : Option Content} {schema : Schema}
    (h : payloadSchema? content = some schema) : schema ∈ payloadSchemas content :=
  mem_payloadSchemas (Option.filter_eq_some_iff.1 h).1

namespace Document

variable {doc : Document} {schema : Schema} {key : String}

/-- Schemas among the components. -/
theorem outer_of_schema (h : schema ∈ doc.schemas.values) : schema ∈ doc.outerSchemas := by
  simp only [outerSchemas, List.mem_append]
  exact Or.inl (Or.inl (Or.inl (Or.inl h)))

/-- Schemas in the responses among the components. -/
theorem outer_of_response {response : Response} (h : response ∈ doc.responses.values)
    (hs : schema ∈ payloadSchemas response.content) : schema ∈ doc.outerSchemas := by
  simp only [outerSchemas, List.mem_append]
  exact Or.inl (Or.inl (Or.inl (Or.inr (List.mem_flatMap.2 ⟨response, h, hs⟩))))

/-- Schemas in the request bodies among the components. -/
theorem outer_of_requestBody {body : RequestBody} (h : body ∈ doc.requestBodies.values)
    (hs : schema ∈ payloadSchemas body.content) : schema ∈ doc.outerSchemas := by
  simp only [outerSchemas, List.mem_append]
  exact Or.inl (Or.inl (Or.inr (List.mem_flatMap.2 ⟨body, h, hs⟩)))

/-- Schemas of the parameters among the components. -/
theorem outer_of_parameter {param : Parameter} (h : param ∈ doc.parameters.values)
    (hs : param.schema = some schema) : schema ∈ doc.outerSchemas := by
  simp only [outerSchemas, List.mem_append]
  exact Or.inl (Or.inr (List.mem_filterMap.2 ⟨param, h, hs⟩))

/-- Schemas on a route. -/
theorem outer_of_path {item : PathItem} (h : item ∈ doc.paths.values) (hs : schema ∈ item.schemas) :
    schema ∈ doc.outerSchemas := by
  simp only [outerSchemas, List.mem_append]
  exact Or.inr (List.mem_flatMap.2 ⟨item, h, hs⟩)

/-- Whatever has a name is one of the components' schemas. -/
theorem outer_of_namedSchema {name : String} (h : (name, schema) ∈ doc.namedSchemas) :
    schema ∈ doc.outerSchemas := by
  simp only [namedSchemas, List.mem_append, List.mem_map, List.mem_filterMap] at h
  rcases h with (⟨entry, hentry, heq⟩ | ⟨entry, hentry, heq⟩) | ⟨entry, hentry, heq⟩
  · cases heq
    exact outer_of_schema (List.mem_map_of_mem hentry)
  · obtain ⟨found, hfound, heq⟩ := Option.map_eq_some_iff.1 heq
    cases heq
    exact outer_of_response (List.mem_map_of_mem hentry)
      (mem_payloadSchemas_of_payloadSchema? hfound)
  · obtain ⟨found, hfound, heq⟩ := Option.map_eq_some_iff.1 heq
    cases heq
    exact outer_of_requestBody (List.mem_map_of_mem hentry)
      (mem_payloadSchemas_of_payloadSchema? hfound)

/-- A payload component that is not just a reference is named after its key. -/
theorem mem_namedSchemas_of_response {response : Response}
    (h : doc.responses.get? key = some response)
    (hs : payloadSchema? response.content = some schema) :
    (Naming.typeName key, schema) ∈ doc.namedSchemas := by
  simp only [namedSchemas, List.mem_append, List.mem_filterMap]
  refine Or.inl (Or.inr ⟨(key, response), Table.get?_eq_some_iff.1 h, ?_⟩)
  rw [hs]
  rfl

/-- So is a request body component. -/
theorem mem_namedSchemas_of_requestBody {body : RequestBody}
    (h : doc.requestBodies.get? key = some body)
    (hs : payloadSchema? body.content = some schema) :
    (Naming.typeName key, schema) ∈ doc.namedSchemas := by
  simp only [namedSchemas, List.mem_append, List.mem_filterMap]
  refine Or.inr ⟨(key, body), Table.get?_eq_some_iff.1 h, ?_⟩
  rw [hs]
  rfl

end Document

end ClientForge
