/-
  The names that types and models mention, said by rules.

  A type of the graph is a token: a scalar, the name of a model, or a list, a map, or any value.  A
  token mentions the name that stands innermost in it, if one does (`TypeToken.Mentions`).  A model
  refers to what its parts mention: the types of its fields, the type that it is another name for, and
  its children (`Model.RefersTo`).  The children of an enumeration are literals and not names, and are
  left aside.

  The program has functions that list these names.  The rules give the same ones
  (`TypeToken.innermost?_eq_some_iff`, `Model.mem_references`), so that later proofs go by cases on the
  rules — one case for each place where a name can stand — and never open the lists.

  Reachability, pruning and closure are all stated over these two relations.
-/
import ClientForge.Model.Basic

namespace ClientForge

/-! ## The rules -/

/-- `token.Mentions name` — the model named innermost, through lists and maps. -/
inductive TypeToken.Mentions : TypeToken → String → Prop
  | named (name : String) : Mentions (.named name) name
  | array {item : TypeToken} {name : String} (h : Mentions item name) : Mentions (.array item) name
  | map {value : TypeToken} {name : String} (h : Mentions value name) : Mentions (.map value) name

/-- `model.RefersTo name` — a field's type or the alias mentions the name, or it is a child.  The
children of an enumeration are literals and refer to nothing. -/
inductive Model.RefersTo (model : Model) (name : String) : Prop
  | field (field : Field) (hf : field ∈ model.fields.values) (h : field.type.Mentions name)
  | viaAlias (token : TypeToken) (ha : model.aliasOf = some token) (h : token.Mentions name)
  | child (he : model.isEnum = false) (h : name ∈ model.children)

/-! ## The lists hold these names -/

/-- The name that stands innermost is the one mentioned. -/
theorem TypeToken.innermost?_eq_some_iff {token : TypeToken} {name : String} :
    token.innermost? = some name ↔ token.Mentions name := by
  constructor
  · intro h
    induction token with
    | primitive p => cases h
    | named other =>
      cases h
      exact .named name
    | array item ih => exact .array (ih h)
    | map value ih => exact .map (ih h)
    | any => cases h
  · intro h
    induction h with
    | named name => rfl
    | array _ ih => exact ih
    | map _ ih => exact ih

/-- The references that are listed are those of the rules. -/
theorem Model.mem_references {model : Model} {name : String} :
    name ∈ model.references ↔ model.RefersTo name := by
  simp only [references, List.mem_append, List.mem_filterMap, Option.mem_toList,
    TypeToken.innermost?_eq_some_iff]
  constructor
  · rintro ((h | ⟨field, hf, h⟩) | ⟨token, ha, h⟩)
    · by_cases he : model.isEnum = true
      · simp [he] at h
      · simp only [he] at h
        exact .child (Bool.eq_false_iff.2 he) h
    · exact .field field hf h
    · exact .viaAlias token ha h
  · intro h
    cases h with
    | field field hf h => exact Or.inl (Or.inr ⟨field, hf, h⟩)
    | viaAlias token ha h => exact Or.inr ⟨token, ha, h⟩
    | child he h =>
      rw [he]
      exact Or.inl (Or.inl h)

/-- What the items of a list mention, the list does. -/
theorem TypeToken.mentions_of_element {token : TypeToken} {name : String}
    (h : token.element.Mentions name) : token.Mentions name := by
  cases token with
  | array item => exact .array h
  | primitive p => exact h
  | named other => exact h
  | map value => exact h
  | any => exact h

end ClientForge
