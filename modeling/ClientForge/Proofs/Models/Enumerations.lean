/-
  The items of an enumeration.

  An enumeration is emitted as its type and one constant for each literal that means a value of its
  scalar, in the order of the literals.  What a literal means depends on the scalar (`Means`): of a text
  every literal means one, a number or a truth value has to be read from it, and a date or time has no
  constants at all.  Literals without a meaning are left out, so the constants stand for some of the
  literals and in their order; which, is part of the statement.

  * A whole number is read from a text in ASCII digits with a sign or none, and must have 64 bits at
    most (`SaysWhole`, `wholeNumber?_eq_some_iff`).  Both bounds count: the one below is further from
    nought than the one above, and the sign decides which of them applies.
  * A text is written as a literal of the generated language, and the constant holds it if reading the
    literal gives it back (`readLiteral?`).
  * A constant is named after the enumeration and its literal, with a number where the name is given
    already.  Literals that differ in case, sign or punctuation only still have one constant each.

  The main result has all of it for an arbitrary model that is an enumeration of a scalar: the type,
  the literals that are kept, and a constant for each (`modelItems_enumeration`).
-/
import Mathlib.Data.List.Forall2
import ClientForge.Code.Printer
import ClientForge.Proofs.Code.TextLiteral
import ClientForge.Proofs.Models.Constants
import ClientForge.Proofs.Naming.Fresh

namespace ClientForge.Sdk

open ClientForge.Code ClientForge.Naming

/-! ## Whole numbers -/

/-- The text is the whole number in ASCII digits with a sign or none, and the number has 64 bits at
most. -/
def SaysWhole (text : String) (n : Int) : Prop :=
  ∃ sign digits, text.toList = sign ++ digits ∧ digits ≠ [] ∧ (∀ c ∈ digits, c.isDigit = true) ∧
    ((sign = [] ∨ sign = ['+']) ∧ n = Nat.ofDigitChars 10 digits 0 ∨
      sign = ['-'] ∧ n = -(Nat.ofDigitChars 10 digits 0 : Int)) ∧
    -Int.pow 2 63 ≤ n ∧ n < Int.pow 2 63

/-- The whole number of some digits behind a sign, if it has 64 bits at most. -/
def signedNumber? (negative : Bool) (digits : List Char) : Option Int :=
  if digits.isEmpty || !digits.all Char.isDigit then none
  else
    let magnitude : Int := Nat.ofDigitChars 10 digits 0
    let n := if negative then -magnitude else magnitude
    if -Int.pow 2 63 ≤ n && n < Int.pow 2 63 then some n else none

/-- The sign of a number, and what stands behind it. -/
def signAndDigits : List Char → Bool × List Char
  | '-' :: rest => (true, rest)
  | '+' :: rest => (false, rest)
  | rest => (false, rest)

/-- A whole number is read from its sign and what stands behind it. -/
theorem wholeNumber?_eq (text : String) :
    wholeNumber? text =
      signedNumber? (signAndDigits text.toList).1 (signAndDigits text.toList).2 := rfl

/-- A sign is taken off if there is one. -/
theorem signAndDigits_cases (cs : List Char) :
    (∃ rest, cs = '-' :: rest ∧ signAndDigits cs = (true, rest)) ∨
      (∃ rest, cs = '+' :: rest ∧ signAndDigits cs = (false, rest)) ∨
      signAndDigits cs = (false, cs) := by
  unfold signAndDigits
  split
  · exact Or.inl ⟨_, rfl, rfl⟩
  · exact Or.inr (Or.inl ⟨_, rfl, rfl⟩)
  · exact Or.inr (Or.inr rfl)

/-- A digit is no sign. -/
theorem signAndDigits_of_digits {cs : List Char} (h : ∀ c ∈ cs, c.isDigit = true) :
    signAndDigits cs = (false, cs) := by
  unfold signAndDigits
  split
  · exact absurd (h '-' List.mem_cons_self) (by decide)
  · exact absurd (h '+' List.mem_cons_self) (by decide)
  · rfl

theorem signedNumber?_eq_some_iff {negative : Bool} {digits : List Char} {n : Int} :
    signedNumber? negative digits = some n ↔
      digits ≠ [] ∧ (∀ c ∈ digits, c.isDigit = true) ∧
        n = (if negative then -(Nat.ofDigitChars 10 digits 0 : Int)
          else Nat.ofDigitChars 10 digits 0) ∧
        -Int.pow 2 63 ≤ n ∧ n < Int.pow 2 63 := by
  unfold signedNumber?
  -- No digits, or something else among them: nothing is read, on either side.
  by_cases hdigits : (digits.isEmpty || !digits.all Char.isDigit) = true
  · rw [if_pos hdigits]
    refine iff_of_false nofun ?_
    rintro ⟨hne, hall, -⟩
    rw [List.all_eq_true.2 hall, Bool.not_true, Bool.or_false, List.isEmpty_iff] at hdigits
    exact hne hdigits
  · rw [if_neg hdigits]
    rw [Bool.or_eq_true, not_or, List.isEmpty_iff, Bool.not_eq_true', Bool.not_eq_false,
      List.all_eq_true] at hdigits
    rw [and_iff_right hdigits.1, and_iff_right hdigits.2]
    dsimp only
    generalize (if negative then -(Nat.ofDigitChars 10 digits 0 : Int)
      else Nat.ofDigitChars 10 digits 0) = value
    -- The range is checked after the reading, so it is the last condition to fail.
    by_cases hrange : -Int.pow 2 63 ≤ value ∧ value < Int.pow 2 63
    · rw [if_pos (by simpa using hrange), Option.some.injEq]
      refine ⟨fun heq => heq ▸ ⟨rfl, hrange⟩, fun h => h.1.symm⟩
    · rw [if_neg (by simpa using hrange)]
      refine iff_of_false nofun fun h => hrange (h.1 ▸ h.2)

/-- **A whole number is read exactly where the text says one.** -/
theorem wholeNumber?_eq_some_iff {text : String} {n : Int} :
    wholeNumber? text = some n ↔ SaysWhole text n := by
  rw [wholeNumber?_eq]
  constructor
  · intro h
    rcases signAndDigits_cases text.toList with ⟨rest, hchars, hsign⟩ | ⟨rest, hchars, hsign⟩ | hsign
    · rw [hsign] at h
      obtain ⟨hne, hall, hn, hrange⟩ := signedNumber?_eq_some_iff.1 h
      exact ⟨['-'], rest, hchars, hne, hall, Or.inr ⟨rfl, hn⟩, hrange⟩
    · rw [hsign] at h
      obtain ⟨hne, hall, hn, hrange⟩ := signedNumber?_eq_some_iff.1 h
      exact ⟨['+'], rest, hchars, hne, hall, Or.inl ⟨Or.inr rfl, hn⟩, hrange⟩
    · rw [hsign] at h
      obtain ⟨hne, hall, hn, hrange⟩ := signedNumber?_eq_some_iff.1 h
      exact ⟨[], text.toList, rfl, hne, hall, Or.inl ⟨Or.inl rfl, hn⟩, hrange⟩
  · rintro ⟨sign, digits, hchars, hne, hall, ⟨rfl | rfl, hn⟩ | ⟨rfl, hn⟩, hrange⟩
    · rw [hchars, List.nil_append, signAndDigits_of_digits hall]
      exact signedNumber?_eq_some_iff.2 ⟨hne, hall, hn, hrange⟩
    · rw [hchars]
      exact signedNumber?_eq_some_iff.2 ⟨hne, hall, hn, hrange⟩
    · rw [hchars]
      exact signedNumber?_eq_some_iff.2 ⟨hne, hall, hn, hrange⟩

/-! ## What a literal means -/

/-- `Means owner p literal value` — in an enumeration of the scalar the literal means the value. -/
inductive Means (owner : String) : Primitive → String → Expr → Prop
  /-- A text is given to the owner's constructor as a literal that says it. -/
  | text {literal quoted : String} {value : Expr}
      (hvalue : value.toText = owner ++ "(std::borrow::Cow::Borrowed(" ++ quoted ++ "))")
      (hread : readLiteral? quoted = some literal) : Means owner .string literal value
  | whole {p : Primitive} {literal : String} {n : Int}
      (hp : p = .int32 ∨ p = .int64 ∨ p = .integer) (h : SaysWhole literal n) :
      Means owner p literal (.int n)
  | fraction {p : Primitive} {literal : String} {x : Binary64}
      (hp : p = .float ∨ p = .double ∨ p = .number) (h : Binary64.ofText? literal = some x) :
      Means owner p literal (.float x)
  | truth (b : Bool) : Means owner .boolean (if b then "true" else "false") (.bool b)

/-- The value of a literal in an enumeration of the scalar. -/
def valueOf? (owner : String) (p : Primitive) (literal : String) : Option Expr :=
  if p = .string then some (textValue owner literal) else literalValue? (some p) literal

/-- The value of a text, as it is printed. -/
theorem toText_textValue (owner literal : String) :
    (textValue owner literal).toText =
      owner ++ "(std::borrow::Cow::Borrowed(" ++ textLiteral literal ++ "))" := by
  apply String.toList_injective
  simp [textValue, Expr.toText, Expr.texts, commaJoined]

/-- A literal is given a value that it means. -/
theorem means_of_valueOf? {owner literal : String} {p : Primitive} {value : Expr}
    (h : valueOf? owner p literal = some value) : Means owner p literal value := by
  unfold valueOf? at h
  split at h
  · -- A text takes every literal; the other primitives read it as a number or as a word.
    rename_i hp
    subst hp
    cases h
    exact .text (toText_textValue owner literal) (readLiteral?_textLiteral literal)
  · cases p with
    | string => rename_i hp; exact absurd rfl hp
    | date => cases h
    | dateTime => cases h
    | int32 | int64 | integer =>
      obtain ⟨n, hn, rfl⟩ := Option.map_eq_some_iff.1 h
      exact .whole (by simp) (wholeNumber?_eq_some_iff.1 hn)
    | float | double | number =>
      obtain ⟨x, hx, rfl⟩ := Option.map_eq_some_iff.1 h
      exact .fraction (by simp) hx
    -- Two words are read, and they are compared one after the other.
    | boolean =>
      simp only [literalValue?, beq_iff_eq] at h
      split at h
      · rename_i htrue
        subst htrue
        cases h
        exact .truth true
      · split at h
        · rename_i hfalse
          subst hfalse
          cases h
          exact .truth false
        · cases h

/-- A literal that means a value is given one. -/
theorem isSome_valueOf? {owner literal : String} {p : Primitive} {value : Expr}
    (h : Means owner p literal value) : (valueOf? owner p literal).isSome = true := by
  cases h with
  | text => rfl
  | whole hp h =>
    have hread := wholeNumber?_eq_some_iff.2 h
    rcases hp with rfl | rfl | rfl <;> simp [valueOf?, literalValue?, hread]
  | fraction hp h =>
    rcases hp with rfl | rfl | rfl <;> simp [valueOf?, literalValue?, h]
  | truth b => cases b <;> rfl

/-! ## Constants -/

/-- The constant is that of the literal: named after it, and holding a value that it means. -/
def IsConstantFor (owner : String) (p : Primitive) (literal : String) (item : Item) : Prop :=
  ∃ ident value, item = .constant ident (.path owner) value ∧
    Granted (constantName owner literal) ident ∧ Means owner p literal value

/-- There is one constant for each value, in their order. -/
theorem forall₂_constants (name : String) (values : List (String × Expr)) :
    List.Forall₂ (fun value item => ∃ ident,
      item = Item.constant ident (.path name) value.2 ∧ Granted (constantName name value.1) ident)
      values (constants name values) := by
  have hgranted := Names.granted_claimIdents .empty
    (values.map fun value => constantName name value.1)
  unfold constants
  dsimp only
  generalize Names.empty.claimIdents (values.map fun value => constantName name value.1) = idents
    at hgranted
  induction values generalizing idents with
  | nil =>
    cases hgranted
    exact .nil
  | cons value rest ih =>
    obtain _ | ⟨hfirst, hrest⟩ := hgranted
    exact .cons ⟨_, rfl, hfirst⟩ (ih _ hrest)

/-! ## Enumerations -/

/-- The literals with a value, each with the one it is given. -/
def literalValues (owner : String) (p : Primitive) (literals : List String) :
    List (String × Expr) :=
  literals.filterMap fun literal => (valueOf? owner p literal).map fun value => (literal, value)

/-- The literals that are kept are those that are given a value. -/
theorem map_fst_literalValues (owner : String) (p : Primitive) (literals : List String) :
    (literalValues owner p literals).map Prod.fst =
      literals.filter fun literal => (valueOf? owner p literal).isSome := by
  unfold literalValues
  induction literals with
  | nil => rfl
  | cons literal rest ih =>
    cases hvalue : valueOf? owner p literal with
    | none =>
      rw [List.filterMap_cons_none (by rw [hvalue]; rfl), List.filter_cons_of_neg (by simp [hvalue]),
        ih]
    | some value =>
      rw [List.filterMap_cons_some (b := (literal, value)) (by rw [hvalue]; rfl),
        List.filter_cons_of_pos (by simp [hvalue]), List.map_cons, ih]

/-- **An enumeration of a scalar** is its type and the constants for its literals' values. -/
theorem modelItems_enumAlias {graph : Graph} {model : Model} {p : Primitive}
    (henum : model.isEnum = true) (halias : model.aliasOf = some (.primitive p)) :
    modelItems graph model =
      (if p = .string then Item.textType model.name model.description
        else .typeAlias model.name (.path p.rustName) model.description) ::
      constants model.name (literalValues model.name p model.children.toList) := by
  have hshape : model.shape = .enumAlias := by simp [Model.shape, henum, halias]
  have hscalar : graph.scalarOf? (.primitive p) = some p := rfl
  unfold modelItems
  rw [hshape]
  show enumItems graph model = _
  unfold enumItems literalValues valueOf?
  by_cases hp : p = .string
  · subst hp
    have htext : model.isStringEnum = true := by simp [Model.isStringEnum, henum, halias]
    simp [htext]
  · have htext : model.isStringEnum = false := by simp [Model.isStringEnum, henum, halias, hp]
    simp [htext, halias, hscalar, hp, typeOf]

/-- **An enumeration is emitted faithfully:** as its type, a type of its own for texts and another
name for the scalar else, and behind it one constant for each literal that means a value, in the
order of the literals.  In an enumeration of texts that is each of them.  The names of the constants
differ. -/
theorem modelItems_enumeration {graph : Graph} {model : Model} {p : Primitive}
    (henum : model.isEnum = true) (halias : model.aliasOf = some (.primitive p)) :
    ∃ type kept constants, modelItems graph model = type :: constants ∧
      type = (if p = .string then .textType model.name model.description
        else .typeAlias model.name (.path p.rustName) model.description) ∧
      kept.Pairwise (· < ·) ∧
      (∀ literal, literal ∈ kept ↔
        literal ∈ model.children ∧ ∃ value, Means model.name p literal value) ∧
      (p = .string → kept = model.children.toList) ∧
      List.Forall₂ (IsConstantFor model.name p) kept constants ∧
      (constants.map Item.name).Nodup := by
  -- The kept literals are those with a value, in the order of the set they come from.
  have hkept := map_fst_literalValues model.name p model.children.toList
  refine ⟨_, (literalValues model.name p model.children.toList).map Prod.fst, _,
    modelItems_enumAlias henum halias, rfl, ?_, fun literal => ?_, ?_, ?_, ?_⟩
  · rw [hkept]
    exact model.children.sorted.filter _
  · rw [hkept, List.mem_filter]
    refine and_congr_right fun _ => ⟨fun hsome => ?_, fun ⟨_, h⟩ => isSome_valueOf? h⟩
    obtain ⟨value, hvalue⟩ := Option.isSome_iff_exists.1 hsome
    exact ⟨value, means_of_valueOf? hvalue⟩
  · rintro rfl
    rw [hkept]
    exact List.filter_eq_self.2 fun _ _ => rfl
  · -- Each constant holds the value its literal means, and the names are granted in that order.
    have hvalues : ∀ value ∈ literalValues model.name p model.children.toList,
        Means model.name p value.1 value.2 := by
      intro value hmem
      obtain ⟨literal, -, heq⟩ := List.mem_filterMap.1 hmem
      obtain ⟨found, hfound, rfl⟩ := Option.map_eq_some_iff.1 heq
      exact means_of_valueOf? hfound
    have hconstants := (List.forall₂_and_left _ _).2 ⟨hvalues, forall₂_constants model.name _⟩
    refine List.forall₂_map_left_iff.2 (hconstants.imp ?_)
    rintro value item ⟨hmeans, ident, rfl, hgranted⟩
    exact ⟨ident, value.2, rfl, hgranted, hmeans⟩
  · rw [map_name_constants]
    exact Names.claimIdents_nodup ..

/-- An enumeration of whole numbers: one number with three signs, a word, and a number too large. -/
def levels : Model where
  name := "Level"
  aliasOf := some (.primitive .integer)
  isEnum := true
  children := .ofList ["+1", "-1", "1", "high", "9223372036854775808"]

/-- The number has a constant with each of its signs, and the word has none. -/
theorem modelItems_enumeration_levels :
    levels.isEnum = true ∧ levels.aliasOf = some (.primitive .integer) ∧
      ∃ type kept constants, modelItems .empty levels = type :: constants ∧
        ("+1" ∈ kept ∧ "-1" ∈ kept ∧ "1" ∈ kept ∧ "high" ∉ kept) ∧
        List.Forall₂ (IsConstantFor "Level" .integer) kept constants ∧
        (constants.map Item.name).Nodup := by
  obtain ⟨type, kept, constants, hitems, -, -, hkept, -, hconstants, hnodup⟩ :=
    @modelItems_enumeration .empty levels .integer rfl rfl
  have hin (literal : String) (n : Int)
      (hmem : literal ∈ ["+1", "-1", "1", "high", "9223372036854775808"])
      (h : valueOf? "Level" .integer literal = some (.int n)) : literal ∈ kept :=
    (hkept literal).2 ⟨Names.mem_ofList.2 hmem, .int n, means_of_valueOf? h⟩
  refine ⟨rfl, rfl, type, kept, constants, hitems,
    ⟨hin "+1" 1 (by decide) rfl, hin "-1" (-1) (by decide) rfl, hin "1" 1 (by decide) rfl,
      fun hmem => ?_⟩, hconstants, hnodup⟩
  obtain ⟨-, value, hmeans⟩ := (hkept "high").1 hmem
  exact absurd (isSome_valueOf? hmeans) (by decide)

example : ((modelItems .empty levels).map Item.toText).tail =
    ["pub const Level1: Level = 1;\n", "pub const Level1_2: Level = -1;\n",
      "pub const Level1_3: Level = 1;\n"] := by
  decide +kernel

end ClientForge.Sdk
