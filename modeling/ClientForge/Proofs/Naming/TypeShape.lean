/-
  The shape of a type's name.

  A type's name is a capital letter with letters, digits and underscores behind it (`TypeShaped`).  The
  name of a component has this shape whenever its key has a letter or digit; with neither, the key has
  no name at all, and what comes out is empty.

  * **Stable.**  A name of this shape is its own type name (`TypeShaped.typeName_eq`).  References name
    a component by its key, and the key may be a name that was made before; a name that is made again
    has to be the same one, or a reference would miss its model.
  * **Closed under endings.**  What is put behind a name, a property or a number, keeps the shape
    (`TypeShaped.of_extends`), so made-up names have it, and so do claimed ones.

  That forming a name again changes nothing is not a property of camel case, which may well read its
  own forms differently.  It holds of type names because an identifier that begins with a capital is
  taken as it is.
-/
import ClientForge.Proofs.Naming.Legal

namespace ClientForge.Naming

open ClientForge.Text

/-- The text is shaped as the name of a type: a capital letter, and letters, digits and underscores
behind it. -/
def TypeShaped (name : String) : Prop :=
  ∃ c cs, name.toList = c :: cs ∧ c.isUpper = true ∧ Plain cs

namespace TypeShaped

variable {name base : String}

/-- A name of this shape is not empty. -/
theorem ne_empty (h : TypeShaped name) : name ≠ "" := by
  rintro rfl
  obtain ⟨c, cs, hchars, -⟩ := h
  cases hchars

/-- It is an identifier. -/
theorem isIdentifier (h : TypeShaped name) : isIdentifier name = true := by
  obtain ⟨c, cs, hchars, hupper, hplain⟩ := h
  rw [Naming.isIdentifier, hchars]
  exact isIdentifierList_of_alpha (isAlpha_of_isUpper hupper) hplain

/-- **A name of this shape is kept.** -/
theorem typeName_eq (h : TypeShaped name) : typeName name = name := by
  have hidentifier := h.isIdentifier
  obtain ⟨c, cs, hchars, hupper, -⟩ := h
  rw [typeName, if_pos]
  rw [hidentifier, hchars, List.head?_cons, Option.any_some, hupper, Bool.and_self]

/-- An ending of letters and digits keeps the shape. -/
theorem of_extends (h : TypeShaped base) (hextends : Extends base name) : TypeShaped name := by
  obtain ⟨c, cs, hchars, hupper, hplain⟩ := h
  obtain ⟨ending, hending, hname⟩ := hextends
  refine ⟨c, cs ++ ending, by rw [hname, hchars, List.cons_append], hupper, fun d hd => ?_⟩
  rcases List.mem_append.1 hd with hd | hd
  · exact hplain d hd
  · exact hending.alphanum.plain d hd

end TypeShaped

/-! ## Names of components -/

/-- A component's name has the shape, or it is empty. -/
theorem typeName_cases (key : String) : typeName key = "" ∨ TypeShaped (typeName key) := by
  cases hchars : (typeName key).toList with
  | nil => exact Or.inl (String.toList_eq_nil_iff.1 hchars)
  | cons c cs =>
    have hplain := plain_typeName key
    have hupper := head_typeName key
    rw [hchars] at hplain hupper
    exact Or.inr ⟨c, cs, hchars, hupper c rfl, (List.forall_mem_cons.1 hplain).2⟩

/-- A key without a letter or digit has an empty exported form. -/
theorem exportedAscii_eq_empty {key : String} (h : ¬ HasLetter key) : exportedAscii key = "" := by
  -- the exported form is letters and digits only, and they are those of the key
  have hletters := letters_exportedAscii key
  have halnum := alphanum_exportedAscii key
  rw [hasLetter_iff, ne_eq, Classical.not_not] at h
  rw [h] at hletters
  cases hchars : (exportedAscii key).toList with
  | nil => exact String.toList_eq_nil_iff.1 hchars
  | cons c cs =>
    rw [hchars] at hletters halnum
    exact absurd hletters (letters_ne_nil_iff.2 ⟨c, List.mem_cons_self, halnum c List.mem_cons_self⟩)

/-- So it has an empty type name. -/
theorem typeName_eq_empty {key : String} (h : ¬ HasLetter key) : typeName key = "" := by
  have hkept : ¬ (isIdentifier key && key.toList.head?.any Char.isUpper) = true := by
    rw [Bool.and_eq_true, Option.any_eq_true]
    rintro ⟨-, c, hc, hupper⟩
    exact h ⟨c, List.mem_of_head? hc, Bool.or_eq_true_iff.2 (Or.inl (isAlpha_of_isUpper hupper))⟩
  rw [typeName, if_neg hkept, exportedAscii_eq_empty h]
  rfl

/-- The type name of a key has the shape if the key has a letter or digit. -/
theorem typeShaped_typeName_iff (key : String) : TypeShaped (typeName key) ↔ HasLetter key := by
  constructor
  · intro hshaped
    by_cases h : HasLetter key
    · exact h
    · exact absurd (typeName_eq_empty h) hshaped.ne_empty
  · intro h
    refine (typeName_cases key).resolve_left fun hempty => ?_
    obtain ⟨c, hc, -⟩ := hasLetter_typeName h
    rw [hempty] at hc
    cases hc

/-- A name made again is the same one. -/
theorem typeName_typeName (key : String) : typeName (typeName key) = typeName key := by
  rcases typeName_cases key with hempty | hshaped
  · rw [hempty]
    rfl
  · exact hshaped.typeName_eq

/-- **Type names are stable and well shaped.** A name made from a type's name is that name.  The
name of a component has the shape exactly if its key has a letter or digit; and what is hoisted out
of a parent with such a name gets one as well, whichever names are taken. -/
theorem typeName_stable_shaped (key parent inner : String) (taken : Names) :
    typeName (typeName key) = typeName key ∧
      (TypeShaped (typeName key) ↔ HasLetter key) ∧
      (TypeShaped parent → TypeShaped (hoistedName parent inner) ∧
        TypeShaped (taken.claim (hoistedName parent inner)).1) := by
  refine ⟨typeName_typeName key, typeShaped_typeName_iff key, fun hparent => ?_⟩
  have hhoisted := hparent.of_extends (Extends.hoistedName parent inner)
  exact ⟨hhoisted, hhoisted.of_extends (Extends.claim taken (hoistedName parent inner))⟩

/-- A key of separators, digits and other letters, and a property whose name is taken. -/
theorem typeName_stable_shaped_owner :
    HasLetter "2fa-état" ∧ typeName "2fa-état" = "T2faTat" ∧ TypeShaped (typeName "2fa-état") ∧
      TypeShaped "Project" ∧
      ((Names.ofList ["ProjectOwnerID"]).claim (hoistedName "Project" "owner_id")).1 =
        "ProjectOwnerID2" ∧
      TypeShaped ((Names.ofList ["ProjectOwnerID"]).claim (hoistedName "Project" "owner_id")).1 := by
  have hletter : HasLetter "2fa-état" := by decide
  have hproject : TypeShaped "Project" := ⟨'P', _, rfl, by decide, by decide⟩
  have hstable := typeName_stable_shaped "2fa-état" "Project" "owner_id"
    (Names.ofList ["ProjectOwnerID"])
  exact ⟨hletter, by decide +kernel, hstable.2.1.2 hletter, hproject, by decide +kernel,
    (hstable.2.2 hproject).2⟩

end ClientForge.Naming
