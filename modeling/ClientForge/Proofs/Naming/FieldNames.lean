/-
  The identifiers of fields and parameters are legal.

  A key of the document is any text, and the identifier made of it has to be one that the language
  allows.  A key gets its snake case, changed in one of three ways where that is no identifier, or none
  that may be used (`IdentFor`):

  1. an underscore goes in front of a digit;
  2. a keyword is written in raw form, with a mark in front;
  3. a keyword that has no raw form gets an underscore behind it.

  A key without a letter or digit has the empty snake case, and gets nothing.

  That each way ends in a legal identifier (`IdentFor.legal`) rests on two facts about snake case: it
  has small letters, digits and underscores only, and it does not begin with an underscore.  With the
  first, whatever does not begin with a digit begins with a letter; with the second, the underscore put
  in front of a digit is followed by something that is no underscore, and the result is no lone
  underscore, which would be no identifier.  No keyword has an underscore in it, so what was changed by
  one is no keyword.

  The main result has the failure as well (`fieldIdent_legal`): only a key without a letter or digit has
  no identifier, and the failure names that key.
-/
import ClientForge.Proofs.Naming.Legal

namespace ClientForge.Naming

open ClientForge.Text

/-! ## Keywords -/

/-- The word is a keyword that may be written in raw form. -/
def HasRawForm (word : String) : Prop := word ∈ keywords ∧ word ∉ bareKeywords

/-- Whether a word is a keyword with a raw form can be computed. -/
instance (word : String) : Decidable (HasRawForm word) := inferInstanceAs (Decidable (_ ∧ _))

/-- No keyword has an underscore. -/
theorem underscore_not_mem_keyword {word : String} (h : word ∈ keywords) : '_' ∉ word.toList := by
  have hall : ∀ word ∈ keywords, '_' ∉ word.toList := by decide
  exact hall word h

/-- So what has one is no keyword. -/
theorem not_keyword_of_underscore {name : String} (h : '_' ∈ name.toList) : name ∉ keywords :=
  fun hmem => underscore_not_mem_keyword hmem h

/-! ## The ways to an identifier -/

/-- `IdentFor key ident` — the way in which the key gets the identifier. -/
inductive IdentFor (key : String) : String → Prop
  | digit {c : Char} {cs : List Char} (hsnake : (snakeCase key).toList = c :: cs)
      (hdigit : c.isDigit = true) : IdentFor key ("_" ++ snakeCase key)
  | bare (h : snakeCase key ∈ bareKeywords) : IdentFor key (snakeCase key ++ "_")
  | raw (h : HasRawForm (snakeCase key)) : IdentFor key (rawMark ++ snakeCase key)
  | plain (hidentifier : isIdentifier (snakeCase key) = true) (h : snakeCase key ∉ keywords) :
      IdentFor key (snakeCase key)

/-- Escaping a keyword is one of the ways, where the snake case is an identifier. -/
theorem identFor_escapeKeyword {key : String} (h : isIdentifier (snakeCase key) = true) :
    IdentFor key (escapeKeyword (snakeCase key)) := by
  unfold escapeKeyword
  by_cases hbare : snakeCase key ∈ bareKeywords
  · rw [if_pos (by simpa using hbare)]
    exact .bare hbare
  · rw [if_neg (by simpa using hbare)]
    by_cases hkeyword : snakeCase key ∈ keywords
    · rw [if_pos (by simpa using hkeyword)]
      exact .raw ⟨hkeyword, hbare⟩
    · rw [if_neg (by simpa using hkeyword)]
      exact .plain h hkeyword

/-- **What a key gets:** nothing if its snake case is empty, else an identifier in one of the
ways. -/
theorem fieldIdent_cases (key : String) :
    (snakeCase key = "" ∧ fieldIdent key = .error (.degenerate key)) ∨
      (snakeCase key ≠ "" ∧ ∃ ident, fieldIdent key = .ok ident ∧ IdentFor key ident) := by
  unfold fieldIdent
  dsimp only
  cases hchars : (snakeCase key).toList with
  | nil =>
    have hempty : snakeCase key = "" := String.toList_eq_nil_iff.1 hchars
    exact Or.inl ⟨hempty, if_pos (String.isEmpty_iff.2 hempty)⟩
  | cons c cs =>
    have hne : snakeCase key ≠ "" := by
      intro hempty
      rw [hempty] at hchars
      cases hchars
    rw [if_neg (fun hempty => hne (String.isEmpty_iff.1 hempty)), List.head?_cons, Option.any_some]
    refine Or.inr ⟨hne, ?_⟩
    cases hdigit : c.isDigit with
    | true => exact ⟨_, if_pos rfl, .digit hchars hdigit⟩
    | false =>
      have hidentifier := isIdentifier_of_snakeShaped hchars (snakeShaped_snakeCase key) hdigit
      exact ⟨_, if_neg Bool.false_ne_true, identFor_escapeKeyword hidentifier⟩

/-- The identifier of a key is made in one of the ways. -/
theorem identFor_of_fieldIdent {key ident : String} (h : fieldIdent key = .ok ident) :
    IdentFor key ident := by
  rcases fieldIdent_cases key with ⟨-, herror⟩ | ⟨-, found, hok, hfor⟩
  · cases herror.symm.trans h
  · cases hok.symm.trans h
    exact hfor

/-- A key that has no identifier has an empty snake case, and the failure names it. -/
theorem snakeCase_of_fieldIdent_error {key : String} {cause : NamingError}
    (h : fieldIdent key = .error cause) : snakeCase key = "" ∧ cause = .degenerate key := by
  rcases fieldIdent_cases key with ⟨hempty, herror⟩ | ⟨-, found, hok, -⟩
  · cases herror.symm.trans h
    exact ⟨hempty, rfl⟩
  · cases hok.symm.trans h

/-! ## Legal identifiers -/

/-- The identifier of a field is legal: in lower case and no keyword, or a keyword in raw form that
has one. -/
inductive LegalField : String → Prop
  | plain {ident : String} (hlegal : LegalName ident)
      (hlower : ∀ c ∈ ident.toList, isSnakeChar c = true) : LegalField ident
  | raw {word : String} (h : HasRawForm word) : LegalField (rawMark ++ word)

/-- **Each way ends in a legal identifier.** -/
theorem IdentFor.legal {key ident : String} (h : IdentFor key ident) : LegalField ident := by
  have hsnake := (snakeShaped_snakeCase key).chars
  cases h with
  | @digit c cs hchars hdigit =>
    have hlower : ∀ d ∈ ("_" ++ snakeCase key).toList, isSnakeChar d = true := by
      rw [String.toList_append]
      exact List.forall_mem_cons.2 ⟨by decide, hsnake⟩
    refine .plain ⟨?_, not_keyword_of_underscore ?_⟩ hlower
    · rw [isIdentifier, String.toList_append, hchars]
      refine isIdentifierList_cons.2 ⟨Or.inr rfl, fun d hd => ?_, fun h => List.cons_ne_nil _ _ h.2⟩
      exact isIdentifierChar_of_isSnakeChar (hsnake d (hchars ▸ hd))
    · rw [String.toList_append]
      exact List.mem_append_left _ (by decide)
  | bare hbare =>
    refine .plain (legalName_bareKeyword hbare) fun c hc => ?_
    rw [String.toList_append] at hc
    rcases List.mem_append.1 hc with hc | hc
    · exact hsnake c hc
    · obtain rfl := List.mem_singleton.1 hc
      decide
  | raw hraw => exact .raw hraw
  | plain hidentifier hkeyword => exact .plain ⟨hidentifier, hkeyword⟩ hsnake

/-- A legal identifier has the characters of one. -/
theorem LegalField.identShaped {ident : String} (h : LegalField ident) : IdentShaped ident := by
  cases h with
  | plain _ hlower =>
    intro c hc
    have hsnake : (c.isLower || c.isDigit || c == '_') = true := hlower c hc
    rw [isIdentChar, hsnake, Bool.true_or]
  | @raw word hraw =>
    have hmark : IdentShaped rawMark := by decide
    have hwords : ∀ word ∈ keywords, HasRawForm word → IdentShaped word := by decide
    exact hmark.append (hwords word hraw.1 hraw)

/-- So has the identifier of a key. -/
theorem identShaped_fieldIdent {key ident : String} (h : fieldIdent key = .ok ident) :
    IdentShaped ident :=
  (identFor_of_fieldIdent h).legal.identShaped

/-- A raw form has the mark. -/
theorem mark_mem_rawMark (name : String) : '#' ∈ (rawMark ++ name).toList := by
  rw [String.toList_append]
  exact List.mem_append_left _ (by decide)

/-- The receiver is a keyword without a raw form. -/
theorem LegalField.ne_self {ident : String} (h : LegalField ident) : ident ≠ "self" := by
  cases h with
  | plain hlegal =>
    rintro rfl
    exact hlegal.2 (by decide)
  | @raw word hraw =>
    intro heq
    have hmark : '#' ∈ "self".toList := heq ▸ mark_mem_rawMark word
    revert hmark
    decide

/-- Snake case is empty if there is neither a letter nor a digit. -/
theorem snakeCase_eq_empty_iff {text : String} : snakeCase text = "" ↔ ¬ HasLetter text := by
  have hhead := head?_snakeCase text
  rw [hasLetter_iff, ne_eq, Classical.not_not]
  constructor
  · intro hempty
    rw [hempty] at hhead
    exact List.head?_eq_none_iff.1 hhead.symm
  · intro hnone
    rw [hnone] at hhead
    exact String.toList_eq_nil_iff.1 (List.head?_eq_none_iff.1 hhead)

/-- **Field identifiers are legal for every key.** Only a key without a letter or digit has none,
and the failure carries it.  Snake case, on which this rests, is words joined by single underscores,
and it stays as it is when it is made again. -/
theorem fieldIdent_legal (key : String) :
    (∀ cause, fieldIdent key = .error cause ↔ cause = .degenerate key ∧ ¬ HasLetter key) ∧
      (HasLetter key ↔ ∃ ident, fieldIdent key = .ok ident ∧ LegalField ident) ∧
      (∃ words, (∀ word ∈ words, SnakeWord word) ∧ (snakeCase key).toList = join ['_'] words) ∧
      snakeCase (snakeCase key) = snakeCase key := by
  have hshape := snakeShaped_snakeCase key
  have hletter : HasLetter key ↔ snakeCase key ≠ "" := by
    rw [ne_eq, snakeCase_eq_empty_iff, Classical.not_not]
  refine ⟨fun cause => ?_, ?_, hshape.exists_words, hshape.snakeCase_eq⟩
  · rw [← snakeCase_eq_empty_iff]
    rcases fieldIdent_cases key with ⟨hempty, herror⟩ | ⟨hne, ident, hok, -⟩
    · rw [herror, Except.error.injEq, eq_comm]
      exact (and_iff_left hempty).symm
    · rw [hok]
      exact iff_of_false nofun fun h => hne h.2
  · rw [hletter]
    rcases fieldIdent_cases key with ⟨hempty, herror⟩ | ⟨hne, ident, hok, hfor⟩
    · rw [herror]
      exact iff_of_false (fun h => h hempty) nofun
    · exact iff_of_true hne ⟨ident, hok, hfor.legal⟩

example : (fieldIdent "SELF").toOption = some "self_" := by decide +kernel

end ClientForge.Naming
