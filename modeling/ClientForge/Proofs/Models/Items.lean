/-
  Which items a model gives.

  The items of a model are its type and, for an enumeration, its constants.  What the type is depends on
  the shape of the model, and the shape on several of its parts at once:

  * a record comes from a model with fields, or from a composition that embeds a child;
  * another name for a type comes from an alias, or from an enumeration of scalars that are no texts;
  * a type of texts comes from an enumeration of texts;
  * a composition that embeds nothing, and a model without any parts, are other names for any value and
    for a map of anything.

  Later proofs know that an item is there and have to find out of what model it came.  They take it
  apart with the lemmas here, one for each kind of item, and never open the functions that emit it.
-/
import ClientForge.Proofs.Models.ByValue

namespace ClientForge.Sdk

open ClientForge.Code

/-- The constants of an enumeration are constants. -/
theorem mem_constants {name : String} {values : List (String × Expr)} {item : Item}
    (h : item ∈ constants name values) : ∃ ident type value, item = .constant ident type value := by
  obtain ⟨⟨ident, literal, value⟩, -, rfl⟩ := List.mem_map.1 h
  exact ⟨ident, .path name, value, rfl⟩

/-- An enumeration is emitted as no record, and as an alias under its own name. -/
theorem mem_enumItems {graph : Graph} {model : Model} {item : Item}
    (h : item ∈ enumItems graph model) :
    (∃ ident type value, item = .constant ident type value) ∨
    item = .textType model.name model.description ∨
    ∃ type, item = .typeAlias model.name type model.description := by
  unfold enumItems at h
  dsimp only at h
  split at h
  · rcases List.mem_cons.1 h with rfl | h
    · exact Or.inr (Or.inl rfl)
    · exact Or.inl (mem_constants h)
  · rcases List.mem_cons.1 h with rfl | h
    · exact Or.inr (Or.inr ⟨_, rfl⟩)
    · exact Or.inl (mem_constants h)

/-- **What is emitted as a record:** a model with fields, or a composition that embeds a child. -/
theorem struct_mem_modelItems {graph : Graph} {model : Model} {name : String}
    {doc : Option String} {members : List Member}
    (h : Item.struct name doc members ∈ modelItems graph model) :
    name = model.name ∧
      ((model.shape = .struct ∧ members = fieldMembers graph model) ∨
        (model.shape = .composition ∧ members = embeddedMembers graph model)) := by
  unfold modelItems at h
  dsimp only at h
  split at h
  · rcases mem_enumItems h with ⟨_, _, _, heq⟩ | heq | ⟨_, heq⟩ <;> cases heq
  · cases List.mem_singleton.1 h
  · rename_i hs
    cases List.mem_singleton.1 h
    exact ⟨rfl, Or.inl ⟨hs, rfl⟩⟩
  · rename_i hs
    split at h
    · cases List.mem_singleton.1 h
    · cases List.mem_singleton.1 h
      exact ⟨rfl, Or.inr ⟨hs, rfl⟩⟩
  · cases List.mem_singleton.1 h

/-- A model without parts is no alias. -/
theorem aliasOf_of_shape_empty {model : Model} (h : model.shape = .empty) :
    model.aliasOf = none := by
  cases ha : model.aliasOf with
  | none => rfl
  | some token =>
    exfalso
    cases he : model.isEnum <;> simp [Model.shape, ha, he] at h

/-- **What is emitted as an alias** for a type: an alias of it, or an enumeration. -/
theorem typeAlias_mem_modelItems {graph : Graph} {model : Model} {token : TypeToken}
    {name : String} {type : Ty} {doc : Option String}
    (ha : model.aliasOf = some token)
    (h : Item.typeAlias name type doc ∈ modelItems graph model) :
    name = model.name ∧
      ((model.shape = .plainAlias ∧ type = typeOf graph token) ∨ model.isEnum = true) := by
  unfold modelItems at h
  dsimp only at h
  split at h
  · -- The shape of an enumeration already says that the model is one.
    rename_i hs
    have he : model.isEnum = true := by
      cases he : model.isEnum with
      | true => rfl
      | false => simp [Model.shape, ha, he] at hs
    rcases mem_enumItems h with ⟨_, _, _, heq⟩ | heq | ⟨_, heq⟩
    · cases heq
    · cases heq
    · cases heq
      exact ⟨rfl, Or.inr he⟩
  · rename_i hs
    rw [ha] at h
    cases List.mem_singleton.1 h
    exact ⟨rfl, Or.inl ⟨hs, rfl⟩⟩
  · cases List.mem_singleton.1 h
  · rename_i hs
    rw [Model.aliasOf_of_shape_composition hs] at ha
    cases ha
  · rename_i hs
    rw [aliasOf_of_shape_empty hs] at ha
    cases ha

end ClientForge.Sdk
