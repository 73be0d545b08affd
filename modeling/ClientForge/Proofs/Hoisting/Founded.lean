/-
  Models made of schemas refer to names that lead somewhere.

  A model mentions a name for one of two reasons: a reference inside its schema names it, or it was
  handed out for a part of the schema, and then the graph holds the model made of that part.  So if
  all references name known things, one step from a model made of a schema ends at a known name or at
  another such model (`Founded.leads`), and every longer path does so step by step.

  * `Founded` — a model was made of a schema, or of the own properties of a composition, and what
    references inside name is known.  The second kind is needed because the own properties of a
    composition get a model although they are no schema by themselves.
  * `Leads` — a name is known, or the graph holds a founded model under it.

  The first section says for each shape that a model can have what it refers to: an alias what its
  token mentions, a record what its fields do, a composition its children; literals refer to nothing,
  although they are kept where children are.  With these the second section goes by the ways in which
  a model says what its schema does, one case for each, and asks of each name where it came from.

  What "known" means is left open.  For a document whose references lead to schemas it will be that a
  component has the name, and then every name that is ever mentioned has a model.
-/
import ClientForge.Proofs.Document.References
import ClientForge.Proofs.Hoisting.Description

namespace ClientForge

/-! ## What a model of each shape refers to -/

/-- Lists around a name mention that name only. -/
theorem TypeToken.eq_of_mentions_inArrays {name target : String} {depth : Nat}
    (h : ((TypeToken.named name).inArrays depth).Mentions target) : target = name := by
  induction depth with
  | zero =>
    cases h
    rfl
  | succ depth ih =>
    cases h with
    | array h => exact ih h

/-- The scalar that a schema is another name for mentions no name. -/
theorem Schema.not_mentions_aliasToken (schema : Schema) (target : String) :
    ¬ schema.aliasToken.Mentions target := by
  intro h
  unfold aliasToken at h
  split at h
  · cases h
  · split at h <;> cases h

namespace Model

variable {model : Model} {target : String}

/-- A model without a shape refers to nothing. -/
theorem not_refersTo_shapeless (name : String) (generated : Bool) (description : Option String) :
    ¬ RefersTo { name, generated, description } target := by
  intro h
  cases h with
  | field field hf => cases hf
  | viaAlias token ha => cases ha
  | child he h => cases h

/-- The values of a table that fields were put into one after the other are such fields, or were
there before. -/
theorem mem_values_foldl_insert {fields : List Field} {table : Table Field} {field : Field}
    (h : field ∈ (fields.foldl (fun table field => table.insert field.key field) table).values) :
    field ∈ fields ∨ field ∈ table.values := by
  induction fields generalizing table with
  | nil => exact Or.inr h
  | cons first rest ih =>
    rcases ih h with h | h
    · exact Or.inl (List.mem_cons_of_mem _ h)
    · obtain ⟨entry, hentry, rfl⟩ := List.mem_map.1 h
      rcases Table.mem_insertList hentry with rfl | hentry
      · exact Or.inl List.mem_cons_self
      · exact Or.inr (List.mem_map_of_mem hentry)

/-- A model with fields refers to what the types of the fields mention, and to the children they
bring. -/
theorem refersTo_withFields {fields : List (Field × Option String)}
    (h : (model.withFields fields).RefersTo target) :
    model.RefersTo target ∨
      ∃ entry ∈ fields, entry.1.type.Mentions target ∨ entry.2 = some target := by
  cases h with
  | field field hf h =>
    rw [fields_withFields] at hf
    rcases mem_values_foldl_insert hf with hmem | hmem
    · obtain ⟨entry, hentry, rfl⟩ := List.mem_map.1 hmem
      exact Or.inr ⟨entry, hentry, Or.inl h⟩
    · exact Or.inl (.field field hmem h)
  | viaAlias token ha h => exact Or.inl (.viaAlias token ha h)
  | child he h =>
    rcases Names.mem_insertAll.1 h with h | h
    · exact Or.inl (.child he h)
    · obtain ⟨entry, hentry, hchild⟩ := List.mem_filterMap.1 h
      exact Or.inr ⟨entry, hentry, Or.inr hchild⟩

/-- A composition refers to its children. -/
theorem refersTo_ofChildren {union : Bool} {children : List String}
    (h : (model.ofChildren union children).RefersTo target) :
    model.RefersTo target ∨ target ∈ children := by
  cases h with
  | field field hf h => exact Or.inl (.field field hf h)
  | viaAlias token ha h =>
    simp only [ofChildren] at ha
    split at ha
    · cases ha
      cases h
    · cases ha
  | child he h => exact Or.inr (Names.mem_ofList.1 h)

/-- The children that a scalar gets are literals. -/
theorem refersTo_ofScalar {schema : Schema} (hm : model.isEnum = false)
    (h : (model.ofScalar schema).RefersTo target) : model.RefersTo target := by
  cases h with
  | field field hf h => exact .field field hf h
  | viaAlias token ha h =>
    cases ha
    exact absurd h (schema.not_mentions_aliasToken target)
  | child he h =>
    have hnone : schema.literals = none :=
      Option.isNone_iff_eq_none.1 (Option.isSome_eq_false_iff.1 he)
    have htexts : schema.literalTexts = [] := by
      unfold Schema.literalTexts
      rw [hnone]
      rfl
    rcases Names.mem_insertAll.1 h with h | h
    · exact .child hm h
    · rw [htexts] at h
      cases h

/-- An alias refers to what its token mentions. -/
theorem refersTo_asAlias {token : TypeToken}
    (h : RefersTo { model with aliasOf := some token } target) :
    model.RefersTo target ∨ token.Mentions target := by
  cases h with
  | field field hf h => exact Or.inl (.field field hf h)
  | viaAlias token ha h =>
    cases ha
    exact Or.inr h
  | child he h => exact Or.inl (.child he h)

end Model

/-! ## One step from a model made of a schema -/

namespace Graph

variable {graph : Graph} {known : String → Prop} {target : String}

/-- The model is one that was made of a schema, or of the own properties of a composition, and all
references in there name what is known. -/
inductive Founded (graph : Graph) (known : String → Prop) : Model → Prop
  | described {name : String} {generated : Bool} {schema : Schema} {model : Model}
      (h : graph.Describes name generated schema model)
      (hknown : ∀ target, schema.Refers target → known target) : Founded graph known model
  | ownFields {name : String} {required : List String} {properties : List (String × Schema)}
      {fields : List (Field × Option String)}
      (h : graph.FieldsStand required properties fields)
      (hknown : ∀ entry ∈ properties, ∀ target, entry.2.Refers target → known target) :
      Founded graph known (Model.withFields { name, generated := true } fields)

/-- The name is known, or the graph holds a model under it that was made of a schema. -/
def Leads (graph : Graph) (known : String → Prop) (target : String) : Prop :=
  known target ∨ ∃ model, graph.get? target = some model ∧ graph.Founded known model

/-- A name that was handed out for a schema leads to the model made of it. -/
theorem Made.leads {schema : Schema} {name : String} (h : graph.Made schema name)
    (hknown : ∀ target, schema.Refers target → known target) : graph.Leads known name := by
  cases h with
  | intro stored built describes => exact Or.inr ⟨_, stored, .described describes hknown⟩

/-- A type of a schema mentions names that lead somewhere. -/
theorem Stands.leads {schema : Schema} {token : TypeToken} (h : graph.Stands schema token)
    (hknown : ∀ target, schema.Refers target → known target) (hm : token.Mentions target) :
    graph.Leads known target := by
  cases h with
  | own hr => exact Or.inl (hknown target (Schema.refers_of_resolve hr hm))
  | inline hr made =>
    obtain rfl := TypeToken.eq_of_mentions_inArrays hm
    exact made.leads fun target href => hknown target (href.of_within (Schema.within_of_resolve hr))

/-- So do the types of fields, and the children that fields bring. -/
theorem FieldsStand.leads {required : List String} {properties : List (String × Schema)}
    {fields : List (Field × Option String)} (h : graph.FieldsStand required properties fields)
    (hknown : ∀ entry ∈ properties, ∀ target, entry.2.Refers target → known target)
    {entry : Field × Option String} (hmem : entry ∈ fields)
    (hm : entry.1.type.Mentions target ∨ entry.2 = some target) : graph.Leads known target := by
  induction properties generalizing fields with
  | nil =>
    cases h
    cases hmem
  | cons property rest ih => cases h with
    | @cons _ key schema token _ fields type others =>
      rcases List.mem_cons.1 hmem with rfl | hmem
      · have hfirst := hknown (key, schema) List.mem_cons_self
        -- a child is what the type of its field mentions
        have hmentions : token.Mentions target := by
          rcases hm with hm | hm
          · exact hm
          · unfold Field.ofProperty at hm
            dsimp only at hm
            split at hm
            · exact TypeToken.innermost?_eq_some_iff.1 hm
            · cases hm
        exact type.leads hfirst hmentions
      · exact ih others (fun entry hentry => hknown entry (List.mem_cons_of_mem _ hentry)) hmem

/-- The children that stand for members lead somewhere, by a reference or by a model of their own.
-/
theorem MembersStand.leads {members : List Schema} {children : List String}
    (h : graph.MembersStand members children)
    (hknown : ∀ member ∈ members, ∀ target, member.Refers target → known target)
    (hmem : target ∈ children) : graph.Leads known target := by
  induction members generalizing children with
  | nil =>
    cases h
    cases hmem
  | cons member rest ih =>
    have hfirst := hknown member List.mem_cons_self
    have hrest := fun member hmember => hknown member (List.mem_cons_of_mem _ hmember)
    cases h with
    | reference href others =>
      rcases List.mem_cons.1 hmem with rfl | hmem
      · exact Or.inl (hfirst _ (Schema.refers_of_bareReference href))
      · exact ih others hrest hmem
    | inline hi made others =>
      rcases List.mem_cons.1 hmem with rfl | hmem
      · exact made.leads hfirst
      · exact ih others hrest hmem
    | other hb hi others => exact ih others hrest hmem

/-- What the model of a schema refers to, by the ways in which it is one. -/
theorem Describes.leads {name : String} {generated : Bool} {schema : Schema} {model : Model}
    (h : graph.Describes name generated schema model)
    (hknown : ∀ target, schema.Refers target → known target) (hr : model.RefersTo target) :
    graph.Leads known target := by
  have hshapeless : ¬ (Model.unshaped name generated schema).RefersTo target :=
    Model.not_refersTo_shapeless name generated schema.description
  have hparts : ∀ part : Schema, part.Within schema → ∀ target, part.Refers target → known target :=
    fun part hin target href => hknown target (href.of_within hin)
  have hproperties : ∀ entry ∈ schema.ownProperties, ∀ target, entry.2.Refers target →
      known target := fun entry hentry => hparts entry.2 (Schema.within_of_property hentry)
  cases h with
  | reference href =>
    cases hr with
    | field field hf h => exact absurd (.field field hf h) hshapeless
    | viaAlias token ha h => exact absurd (.viaAlias token ha h) hshapeless
    | child he h =>
      obtain rfl := List.mem_singleton.1 (Names.mem_ofList.1 h)
      exact Or.inl (hknown _ (Schema.refers_of_bareReference href))
  | composition hb hc hp parts =>
    have hmem := (Model.refersTo_ofChildren hr).resolve_left hshapeless
    exact parts.leads (fun member hm => hparts member (Schema.within_of_member hc hm)) hmem
  | extended hb hc hp parts stored built own =>
    have hmem := (Model.refersTo_ofChildren hr).resolve_left hshapeless
    rcases List.mem_append.1 hmem with hmem | hmem
    · exact parts.leads (fun member hm => hparts member (Schema.within_of_member hc hm)) hmem
    · obtain rfl := List.mem_singleton.1 hmem
      -- the child for the own properties: its model was made of them, not of a schema
      exact Or.inr ⟨_, stored, .ownFields own hproperties⟩
  | record hb hc hp own =>
    obtain ⟨entry, hentry, hm⟩ := (Model.refersTo_withFields hr).resolve_left hshapeless
    exact own.leads hproperties hentry hm
  | scalar hb hc hp hs => exact absurd (Model.refersTo_ofScalar rfl hr) hshapeless
  | array hb hc hp hs ha items =>
    exact items.leads hknown ((Model.refersTo_asAlias hr).resolve_left hshapeless)
  | map hb hc hp hs ha hadd =>
    have hm := (Model.refersTo_asAlias hr).resolve_left hshapeless
    exact Or.inl (hknown target (Schema.refers_of_mapToken hm))
  | plain => exact absurd hr hshapeless

/-- **One step from a model made of a schema** ends at a known name or at another such model. -/
theorem Founded.leads {model : Model} (h : graph.Founded known model) (hr : model.RefersTo target) :
    graph.Leads known target := by
  cases h with
  | described h hknown => exact h.leads hknown hr
  | ownFields h hknown =>
    obtain ⟨entry, hentry, hm⟩ :=
      (Model.refersTo_withFields hr).resolve_left (Model.not_refersTo_shapeless _ _ none)
    exact h.leads hknown hentry hm

end Graph

end ClientForge
