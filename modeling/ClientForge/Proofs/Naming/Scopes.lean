/-
  The identifiers of generated code, scope by scope.

  There are three kinds of scopes in the generated code in which names come from keys of the document.

  1. The parameters of a method, with the locals of its body.  A parameter that would be called as one of
     these gets an underscore behind it, and one whose key gives no identifier is named after its place.
  2. The fields of a record.  A field whose key gives no identifier is named after its place.
  3. The models embedded in a composition, whose names are their keys.

  In each the wishes are granted one after the other, so the identifiers differ as texts.  Whether they
  stand for different names is another question, since a raw mark is no part of a name; it was answered
  for any row of wishes that have to do with keywords as their keys do.  What remains is to see that the
  wishes of each scope are such (`wish_paramIdent`, `wish_field`, `wish_child`): an underscore behind a
  local or a place for a name brings no keyword in.

  `scopes_differ_iff` puts the three side by side.  It is an equivalence in each, so it says of every
  endpoint, graph and model whether its code declares a name twice.  The last section has a record with
  the fields `Type`, `type` and `type_2`, which does.
-/
import ClientForge.Proofs.Models.Boxing
import ClientForge.Proofs.Naming.RawForms
import ClientForge.Proofs.Request.Identifiers

namespace ClientForge.Sdk

open ClientForge.Code ClientForge.Naming

/-! ## Wishes -/

/-- The name for a place, where a key gives none. -/
theorem wish_place {key : String} {cause : NamingError} (h : fieldIdent key = .error cause)
    (name : String) (hmark : '#' ∉ name.toList) (hunderscore : '_' ∉ name.toList)
    (hname : ¬ HasRawForm name) (place : Nat) : Wish key (name ++ "_" ++ decimalText place) := by
  refine wish_of_fieldIdent_error h ?_ ?_
  · intro hmem
    simp only [String.toList_append, List.mem_append] at hmem
    rcases hmem with (hmem | hmem) | hmem
    · exact hmark hmem
    · revert hmem
      decide
    · exact not_mem_decimalText rfl place hmem
  · rw [String.append_assoc, stem_append hunderscore (by rw [String.toList_append]; rfl)]
    exact hname

/-- No local of a body begins as a keyword with a raw form. -/
theorem not_hasRawForm_stem_bodyLocals {name : String} (h : name ∈ bodyLocals) :
    ¬ HasRawForm (stem name) := by
  have hall : ∀ name ∈ bodyLocals, ¬ HasRawForm (stem name) := by decide
  exact hall name h

/-- A wish for a local is turned into one that has to do with no keyword either. -/
theorem wish_append_underscore {key ident : String} (h : Wish key ident)
    (hlocal : ident ∈ bodyLocals) : Wish key (ident ++ "_") := by
  have hplain : ∀ name ∈ bodyLocals, '#' ∉ name.toList ∧ '_' ∉ name.toList := by decide
  obtain ⟨hmark, hunderscore⟩ := hplain ident hlocal
  have hstem := not_hasRawForm_stem_bodyLocals hlocal
  have hlonger : ¬ HasRawForm (stem (ident ++ "_")) := by
    rwa [stem_append hunderscore rfl, ← stem_eq_self hunderscore]
  cases h with
  | raw hraw => exact absurd (mark_mem_rawMark _) hmark
  | unmarked h =>
    refine .unmarked ⟨fun hmem => ?_, not_hasRawForm_of_stem hlonger, h.key_not_word, ?_⟩
    · rw [String.toList_append] at hmem
      exact (List.mem_append.1 hmem).elim hmark (by decide)
    · intro word n hword hn
      rw [← h.numbered_iff word n hword hn]
      exact iff_of_false (ne_numbered_of_stem hlonger hword n) (ne_numbered_of_stem hstem hword n)

/-- **What a parameter wishes for.** -/
theorem wish_paramIdent (index : Nat) (field : Field) :
    Wish field.key (paramIdent index field) := by
  unfold paramIdent
  cases hident : fieldIdent field.key with
  | error cause => exact wish_place hident "param" (by decide) (by decide) (by decide) index
  | ok ident =>
    have hwish := wish_fieldIdent hident
    dsimp only
    split
    · rename_i hlocal
      exact wish_append_underscore hwish (List.contains_iff_mem.1 hlocal)
    · exact hwish

/-- The identifier of a key, or what stands in for it, may be wished for. -/
theorem wish_fieldIdentOr {fallback key : String}
    (h : ∀ cause, fieldIdent key = .error cause → Wish key fallback) :
    Wish key (fieldIdentOr fallback key) := by
  unfold fieldIdentOr
  split
  · rename_i hident
    exact wish_fieldIdent hident
  · rename_i hnone
    exact h _ hnone

/-- **What a field of a record wishes for.** -/
theorem wish_field (index : Nat) (field : Field) :
    Wish field.key (fieldIdentOr ("field_" ++ decimalText index) field.key) :=
  wish_fieldIdentOr fun _ hnone =>
    wish_place hnone "field" (by decide) (by decide) (by decide) index

/-- **What an embedded model wishes for.** -/
theorem wish_child (child : String) : Wish child (fieldIdentOr "inner" child) :=
  wish_fieldIdentOr fun _ hnone => wish_of_fieldIdent_error hnone (by decide) (by decide)

/-! ## Scopes -/

/-- Two rows made of one, the one with the places, are related one by one. -/
theorem forall₂_map_mapIdx {α β γ : Type} {related : β → γ → Prop} {f : α → β} {g : Nat → α → γ}
    (xs : List α) (h : ∀ i x, related (f x) (g i x)) :
    List.Forall₂ related (xs.map f) (xs.mapIdx g) := by
  induction xs generalizing g with
  | nil => exact .nil
  | cons x rest ih =>
    rw [List.mapIdx_cons]
    exact .cons (h 0 x) (ih fun i x => h (i + 1) x)

/-- The members of a record have the identifiers of its fields. -/
theorem map_name_fieldMembers (graph : Graph) (model : Model) :
    (fieldMembers graph model).map Member.name = fieldIdents model := by
  rw [fieldMembers, List.map_map]
  exact List.map_fst_zip (Nat.le_of_eq (length_fieldIdents model))

/-- The members of a composition have the identifiers claimed for its children. -/
theorem map_name_embeddedMembers (graph : Graph) (model : Model) :
    (embeddedMembers graph model).map Member.name =
      Names.empty.claimIdents ((embedded graph model).map (fieldIdentOr "inner")) := by
  have hlength := Names.length_claimIdents .empty
    ((embedded graph model).map (fieldIdentOr "inner"))
  rw [List.length_map] at hlength
  rw [embeddedMembers, List.map_map]
  refine (List.map_congr_left fun pair _ => ?_).trans (List.map_fst_zip (Nat.le_of_eq hlength))
  dsimp only [Function.comp]
  split <;> rfl

/-- No parameter stands for a local of the body. -/
theorem plainName_not_mem_bodyLocals {endpoint : Endpoint} {ident : String}
    (h : ident ∈ paramIdents endpoint) : plainName ident ∉ bodyLocals := by
  obtain ⟨wish, hwish, hgranted⟩ := Names.exists_granted h
  obtain ⟨index, _, rfl⟩ := List.mem_mapIdx.1 hwish
  rcases (wish_paramIdent index _).granted_cases hgranted with
    ⟨word, n, hword, -, rfl⟩ | ⟨-, hnone⟩
  · rw [plainName_rawMark]
    intro hlocal
    exact not_hasRawForm_stem_bodyLocals hlocal (by rwa [hword.stem_numbered])
  · rw [plainName_eq_self hnone]
    exact fun hlocal => paramIdents_not_reserved h (List.mem_cons_of_mem _ hlocal)

/-- **The identifiers of one scope.** Each parameter of a method gets what it wishes for, with a
number perhaps, and none stands for a local of the body; and the identifiers of the parameters, of
the fields of a record and of the models embedded in one stand for different names exactly if in
their scope no number that a keyword gets is taken. -/
theorem scopes_differ_iff (endpoint : Endpoint) (graph : Graph) (model : Model) :
    (List.Forall₂ Granted (endpoint.params.mapIdx paramIdent) (paramIdents endpoint) ∧
      ((paramIdents endpoint).map plainName).Disjoint bodyLocals ∧
      (((paramIdents endpoint).map plainName).Nodup ↔
        ¬ NumberTaken (endpoint.params.map Field.key))) ∧
    (((fieldMembers graph model).map fun member => plainName member.name).Nodup ↔
      ¬ NumberTaken (model.fields.values.map Field.key)) ∧
    (((embeddedMembers graph model).map fun member => plainName member.name).Nodup ↔
      ¬ NumberTaken (embedded graph model)) := by
  -- In each scope an identifier is wished for through the key, whatever fallback it uses; the
  -- criterion is then the same for all three.
  have hparams : List.Forall₂ Wish (endpoint.params.map Field.key)
      (endpoint.params.mapIdx paramIdent) := forall₂_map_mapIdx _ wish_paramIdent
  have hfields : List.Forall₂ Wish (model.fields.values.map Field.key)
      (model.fields.values.mapIdx fun i field =>
        fieldIdentOr ("field_" ++ decimalText i) field.key) := forall₂_map_mapIdx _ wish_field
  have hchildren : List.Forall₂ Wish (embedded graph model)
      ((embedded graph model).map (fieldIdentOr "inner")) :=
    List.forall₂_map_right_iff.2 (List.forall₂_same.2 fun child _ => wish_child child)
  refine ⟨⟨Names.granted_claimIdents _ _, ?_, nodup_plainName_iff hparams⟩, ?_, ?_⟩
  · intro name hname
    obtain ⟨ident, hident, rfl⟩ := List.mem_map.1 hname
    exact plainName_not_mem_bodyLocals hident
  · have hnames := nodup_plainName_iff hfields
    rwa [← fieldIdents, ← map_name_fieldMembers graph, List.map_map] at hnames
  · have hnames := nodup_plainName_iff hchildren
    rwa [← map_name_embeddedMembers, List.map_map] at hnames

/-- A record with a keyword in two spellings, and with the keyword and a number. -/
def spelled : Model where
  name := "Spelled"
  fields := .ofList (["Type", "type", "type_2"].map fun key => (key, { key, type := .any }))

example : (fieldMembers .empty spelled).map Member.name = ["r#type", "r#type_2", "type_2"] := by
  decide +kernel

end ClientForge.Sdk
