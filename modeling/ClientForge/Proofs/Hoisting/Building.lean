/-
  Building hoists soundly.

  A model is built of a schema along the schema's nesting, and whatever inline object or composition
  is met on the way is hoisted: it gets a name of its own, claimed from the names not yet taken, and a
  model that is kept beside the one being built.  Four functions do this, and they call one another:
  one builds a model, one the fields of an object, one the type of a schema, one the members of a
  composition.

  Two things are shown of each of them at once (`Hoists`):

  1. the names grow by exactly the models that are hoisted, each of them under a name that was free;
  2. the result is what the schema says, in ANY graph that holds the hoisted models.

  The second is what makes the induction close.  What a model says is a statement about names that
  lead to models, and these are in no graph yet while building is under way; so it is put as a promise
  about every graph that will hold them.  Where two results are put together the promises are too,
  since a graph that holds both rows of models holds each.

  The steps are those of `BuildingSteps`, one for each way in which a schema can be built, so all that
  is to be shown here is one line or two for each (`hoists_steps`), and the recursion is not opened
  again (`building_hoists`).
-/
import ClientForge.Proofs.Hoisting.Steps

namespace ClientForge

/-! ## The invariant -/

/-- Building a model hoists soundly. -/
abbrev ModelHoists (name : String) (generated : Bool) (schema : Schema) (names : Names) : Prop :=
  Hoists names (buildModel name generated schema names) fun graph =>
    graph.Describes name generated schema

/-- Building fields hoists soundly. -/
abbrev FieldsHoist (owner : String) (required : List String) (properties : List (String × Schema))
    (names : Names) : Prop :=
  Hoists names (buildFields owner required properties names) fun graph =>
    graph.FieldsStand required properties

/-- Binding a schema hoists soundly. -/
abbrev TypeHoists (preferred : String) (schema : Schema) (names : Names) : Prop :=
  Hoists names (bindSchema preferred schema names) fun graph => graph.Stands schema

/-- Building the members of a composition hoists soundly. -/
abbrev MembersHoist (wished : Nat → String) (index : Nat) (members : List Schema)
    (names : Names) : Prop :=
  Hoists names (buildMembers wished index members names) fun graph => graph.MembersStand members

/-- A model built under a claimed name is what the graph that holds it has made of the schema. -/
theorem Hoists.made {β : Type} {preferred : String} {schema : Schema} {names : Names} {b : β}
    {stands : Graph → β → Prop}
    (h : ModelHoists (names.claim preferred).1 true schema (names.claim preferred).2)
    (hb : ∀ graph : Graph, graph.Made schema (names.claim preferred).1 → stands graph b) :
    let built := buildModel (names.claim preferred).1 true schema (names.claim preferred).2
    Hoists names ⟨b, built.result :: built.hoisted, built.names⟩ stands := by
  have hname := buildModel_name (names.claim preferred).1 true schema (names.claim preferred).2
  refine Hoists.claim hname.2 hname.1 h fun graph hstored hdescribes => ?_
  exact hb graph (.intro hstored ⟨_, rfl⟩ hdescribes)

/-- The own fields of a composition, built under a claimed name, are hoisted after their parts. -/
theorem Hoists.ownFields {α β : Type} {names : Names} {parts : Built α} {preferred : String}
    {required : List String} {properties : List (String × Schema)} {b : β}
    {stands₁ : Graph → α → Prop} {stands : Graph → β → Prop}
    (hparts : Hoists names parts stands₁) :
    let own := parts.names.claim preferred
    let fields := buildFields own.1 required properties own.2
    let model := Model.withFields { name := own.1, generated := true } fields.result
    FieldsHoist own.1 required properties own.2 →
    (∀ graph : Graph, stands₁ graph parts.result → graph.get? own.1 = some model →
      graph.FieldsStand required properties fields.result → stands graph b) →
    Hoists names ⟨b, parts.hoisted ++ fields.hoisted ++ [model], fields.names⟩ stands := by
  intro own fields model hfields hb
  -- the model comes last in the list, but its name is claimed before those of its fields
  have hbuilt : Hoists own.2 ⟨model, fields.hoisted, fields.names⟩
      fun graph _ => graph.FieldsStand required properties fields.result :=
    hfields.map fun graph h => h
  have hmodel : Hoists parts.names ⟨(), model :: fields.hoisted, fields.names⟩
      fun graph _ => graph.get? model.name = some model ∧
        graph.FieldsStand required properties fields.result :=
    Hoists.claim rfl rfl hbuilt fun graph hstored hfields => ⟨hstored, hfields⟩
  have hall : Hoists names ⟨b, parts.hoisted ++ model :: fields.hoisted, fields.names⟩ stands :=
    hparts.append hmodel fun graph h₁ h₂ => hb graph h₁ h₂.1 h₂.2
  refine hall.of_perm ?_
  rw [List.append_assoc]
  exact (List.perm_append_singleton model fields.hoisted).symm.append_left parts.hoisted

/-! ## Every step hoists soundly -/

/-- Each step grows the names by what it hoists, and its result stands in a graph that holds that. -/
theorem hoists_steps : BuildingSteps
    (fun name generated schema names built =>
      Hoists names built fun graph => graph.Describes name generated schema)
    (fun _ required properties names built =>
      Hoists names built fun graph => graph.FieldsStand required properties)
    (fun _ schema names built => Hoists names built fun graph => graph.Stands schema)
    (fun _ _ members names built =>
      Hoists names built fun graph => graph.MembersStand members) where
  reference h := Hoists.pure fun graph => .reference h
  extended hb hc hp hparts hfields :=
    Hoists.ownFields hparts hfields fun graph hmembers hstored hown =>
      .extended hb hc hp hmembers hstored ⟨_, rfl⟩ hown
  composition hb hc hp hparts :=
    hparts.map fun graph hmembers => .composition hb hc hp hmembers
  record hb hc hp hfields := hfields.map fun graph h => .record hb hc hp h
  scalar hb hc hp hs := Hoists.pure fun graph => .scalar hb hc hp hs
  array hb hc hp hs ha htype := htype.map fun graph h => .array hb hc hp hs ha h
  map hb hc hp hs ha hadd := Hoists.pure fun graph => .map hb hc hp hs ha hadd
  plain hb hc hp hs ha hadd := Hoists.pure fun graph => .plain hb hc hp hs ha hadd
  noField := Hoists.pure fun graph => .nil
  field htype hothers := htype.append hothers fun graph h₁ h₂ => .cons h₁ h₂
  own hr := Hoists.pure fun graph => .own hr
  inline hr hbuilt := Hoists.made hbuilt fun graph hmade => .inline hr hmade
  noMember := Hoists.pure fun graph => .nil
  memberReference h hothers := hothers.map fun graph hrest => .reference h hrest
  -- the one step that hoists in a composition: the model under the claimed name comes first, then
  -- the others
  memberInline := by
    intro wished index member rest names hb h own built others hbuilt hothers
    have hinline : member.isInline = true := by rw [Schema.isInline_iff hb, h]
    have hfirst : Hoists names _ fun graph name => graph.Made member name :=
      Hoists.made (b := own.1) hbuilt fun graph hmade => hmade
    exact hfirst.append hothers fun graph h₁ h₂ => .inline hinline h₁ h₂
  memberOther := by
    intro wished index member rest names hb h hothers
    have hinline : member.isInline = false := by rw [Schema.isInline_iff hb, h]
    exact hothers.map fun graph hrest => .other hb hinline hrest

/-- **Building hoists soundly,** along the calls of the four functions. -/
theorem building_hoists :
    (∀ name generated schema names, ModelHoists name generated schema names) ∧
    (∀ owner required properties names, FieldsHoist owner required properties names) ∧
    (∀ preferred schema names, TypeHoists preferred schema names) ∧
    (∀ wished index members names, MembersHoist wished index members names) :=
  hoists_steps.built

end ClientForge
