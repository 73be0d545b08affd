/-
  Which names are legal.

  A name of the generated code has to be an identifier and no keyword, unless it is in raw form.

  **Methods.**  The method of an operation is the snake-case form of its name with keywords escaped, so
  it is legal unless the first letter or digit of the name is a digit (`legalMethod_methodIdent_iff`).
  A digit in front is not mended, as it is for the names of fields.

  **Types.**  The name of a type is that of a component or of an operation with an ending of letters and
  digits behind it (`Extends`): properties, members, payloads and numbers all end a name in this way.
  Whether the whole is an identifier is decided by what it extends, since such an ending can be put
  behind any identifier (`isIdentifierList_append`).  For keywords it is enough to look at the first
  letter: no name of a type begins with a small letter, and of the keywords only `Self` begins with a
  capital one (`eq_self_of_raised`).  So a name is legal as soon as what it extends is an identifier,
  unless it is `Self` (`legalName_iff_of_extends`).

  That raising the first letter of any text gives no small ASCII letter is a statement about the tables
  of case.  Beyond ASCII some characters have an upper-case form of several letters, and some have none
  of their own; none has one that begins with a small ASCII letter (`upperChar_eq_cons`).
-/
import ClientForge.Proofs.Naming.Fresh
import ClientForge.Proofs.Naming.SnakeCase

namespace ClientForge.Naming

open ClientForge.Text

/-! ## Legal names -/

/-- The name is an identifier and no keyword. -/
def LegalName (name : String) : Prop := isIdentifier name = true ∧ name ∉ keywords

/-- Whether a name is legal can be computed. -/
instance (name : String) : Decidable (LegalName name) := inferInstanceAs (Decidable (_ ∧ _))

/-- The identifier may stand where a function is named: it is a legal name, or one in raw form that
has such a form. -/
inductive LegalMethod : String → Prop
  | plain {name : String} (h : LegalName name) : LegalMethod name
  | raw {name : String} (h : isIdentifier name = true) (hraw : name ∉ bareKeywords) :
      LegalMethod (rawMark ++ name)

/-- The text has an ASCII letter or digit. -/
def HasLetter (text : String) : Prop := ∃ c ∈ text.toList, c.isAlphanum = true

/-- Whether a text has a letter or digit can be computed. -/
instance (text : String) : Decidable (HasLetter text) :=
  decidable_of_iff (text.toList.any Char.isAlphanum = true) List.any_eq_true

/-- A text has a letter or digit if some are left of it. -/
theorem hasLetter_iff {text : String} : HasLetter text ↔ letters text.toList ≠ [] :=
  letters_ne_nil_iff.symm

/-- The word begins with no small ASCII letter. -/
def Raised (cs : List Char) : Prop := ∀ c ∈ cs.head?, c.isLower = false

/-- **`Self` is the only keyword** that begins with no small letter. -/
theorem eq_self_of_raised {word : String} (h : word ∈ keywords) (hraised : Raised word.toList) :
    word = "Self" := by
  have hall : ∀ word ∈ keywords, word.toList.head?.all (!·.isLower) → word = "Self" := by decide
  refine hall word h ?_
  cases hhead : word.toList.head? with
  | none => rfl
  | some c => rw [Option.all_some, hraised c hhead, Bool.not_false]

/-! ## Identifiers -/

/-- A capital letter is a letter. -/
theorem isAlpha_of_isUpper {c : Char} (h : c.isUpper = true) : c.isAlpha = true :=
  Bool.or_eq_true_iff.2 (Or.inl h)

/-- An identifier begins with a letter or an underscore, and is not an underscore alone. -/
theorem isIdentifierList_cons {c : Char} {cs : List Char} :
    isIdentifierList (c :: cs) = true ↔
      (c.isAlpha = true ∨ c = '_') ∧ Plain cs ∧ ¬ (c = '_' ∧ cs = []) := by
  simp only [isIdentifierList, Plain, Bool.and_eq_true, Bool.or_eq_true, Bool.not_eq_true',
    Bool.and_eq_false_imp, beq_iff_eq, List.all_eq_true, List.isEmpty_eq_false_iff, not_and,
    and_assoc]

/-- Letters and digits after a name that has some change nothing about its being an identifier. -/
theorem isIdentifierList_append {cs ending : List Char} (hletter : ∃ c ∈ cs, c.isAlphanum = true)
    (hending : Alphanum ending) :
    isIdentifierList (cs ++ ending) = true ↔ isIdentifierList cs = true := by
  cases cs with
  | nil =>
    obtain ⟨c, hc, -⟩ := hletter
    cases hc
  | cons first rest =>
    -- a lone underscore has no letter, so neither text is one
    have hrest : first = '_' → rest ≠ [] := by
      rintro rfl rfl
      obtain ⟨c, hc, halnum⟩ := hletter
      rw [List.mem_singleton.1 hc] at halnum
      cases halnum
    have hplain : Plain (rest ++ ending) ↔ Plain rest := by
      refine ⟨fun h c hc => h c (List.mem_append_left _ hc), fun h c hc => ?_⟩
      rcases List.mem_append.1 hc with hc | hc
      · exact h c hc
      · exact hending.plain c hc
    rw [List.cons_append, isIdentifierList_cons, isIdentifierList_cons, hplain]
    refine and_congr_right fun _ => and_congr_right fun _ => ?_
    have hleft : ¬ (first = '_' ∧ rest ++ ending = []) := fun ⟨hfirst, hnil⟩ =>
      hrest hfirst (List.append_eq_nil_iff.1 hnil).1
    exact iff_of_true hleft fun ⟨hfirst, hnil⟩ => hrest hfirst hnil

/-- A letter and what may stand in an identifier make one. -/
theorem isIdentifierList_of_alpha {c : Char} {cs : List Char} (hc : c.isAlpha = true)
    (hcs : Plain cs) : isIdentifierList (c :: cs) = true := by
  refine isIdentifierList_cons.2 ⟨Or.inl hc, hcs, ?_⟩
  rintro ⟨rfl, -⟩
  cases hc

/-- Snake case that begins with no digit is an identifier. -/
theorem isIdentifier_of_snakeShaped {name : String} {c : Char} {cs : List Char}
    (hname : name.toList = c :: cs) (hshape : SnakeShaped name.toList) (hc : c.isDigit = false) :
    isIdentifier name = true := by
  rw [hname] at hshape
  obtain ⟨hfirst, hrest⟩ := List.forall_mem_cons.1 hshape.chars
  have hne : c ≠ '_' := fun heq => hshape.first (congrArg some heq)
  have hlower : c.isLower = true := by
    have hcases := isLower_or_isDigit_of_isSnakeChar hfirst hne
    rw [hc] at hcases
    exact hcases.resolve_right Bool.false_ne_true
  rw [isIdentifier, hname]
  exact isIdentifierList_of_alpha (Bool.or_eq_true_iff.2 (Or.inr hlower)) fun d hd =>
    isIdentifierChar_of_isSnakeChar (hrest d hd)

/-! ## Methods -/

/-- Snake case begins with the first letter or digit of the text. -/
theorem head?_snakeCase (text : String) :
    (snakeCase text).toList.head? = (letters text.toList).head? := by
  have hletters := letters_snakeCase text
  cases hsnake : (snakeCase text).toList with
  | nil =>
    rw [hsnake] at hletters
    rw [← hletters]
    rfl
  | cons c cs =>
    have hshape := snakeShaped_snakeCase text
    rw [hsnake] at hshape
    have hne : c ≠ '_' := fun heq => hshape.first (congrArg some heq)
    have hsame : c.isAlphanum = true ∧ c.toLower = c :=
      alphanum_of_isSnakeChar (hshape.chars c List.mem_cons_self) hne
    rw [← hletters, hsnake, letters_cons_of_alphanum hsame.1, hsame.2]
    rfl

/-- A bare keyword is legal with an underscore after it. -/
theorem legalName_bareKeyword {word : String} (h : word ∈ bareKeywords) :
    LegalName (word ++ "_") := by
  have hall : ∀ word ∈ bareKeywords, LegalName (word ++ "_") := by decide
  exact hall word h

/-- **An escaped identifier is legal.** -/
theorem legalMethod_escapeKeyword {ident : String} (h : isIdentifier ident = true) :
    LegalMethod (escapeKeyword ident) := by
  unfold escapeKeyword
  by_cases hbare : ident ∈ bareKeywords
  · rw [if_pos (by simpa using hbare)]
    exact .plain (legalName_bareKeyword hbare)
  · rw [if_neg (by simpa using hbare)]
    by_cases hkeyword : ident ∈ keywords
    · rw [if_pos (by simpa using hkeyword)]
      exact .raw h hbare
    · rw [if_neg (by simpa using hkeyword)]
      exact .plain ⟨h, hkeyword⟩

/-- What begins with a digit is not legal, nor made so. -/
theorem not_legalMethod_escapeKeyword {ident : String} {c : Char} {cs : List Char}
    (hident : ident.toList = c :: cs) (hdigit : c.isDigit = true) :
    ¬ LegalMethod (escapeKeyword ident) := by
  have hhead : c.isAlpha = false ∧ c ≠ '_' ∧ c ≠ 'r' :=
    forall_ascii (p := fun c => c.isDigit = true → c.isAlpha = false ∧ c ≠ '_' ∧ c ≠ 'r')
      (by decide) (toNat_lt_of_isAlphanum (by rw [Char.isAlphanum, hdigit, Bool.or_true])) hdigit
  have hkeyword : ident ∉ keywords := by
    have hall : ∀ word ∈ keywords, word.toList.head?.all (!·.isDigit) := by decide
    intro hmem
    have hword := hall ident hmem
    rw [hident, List.head?_cons, Option.all_some, hdigit] at hword
    cases hword
  rw [escapeKeyword_of_not_mem hkeyword]
  rintro (⟨hlegal, -⟩ | ⟨-, -⟩)
  · rw [isIdentifier, hident, isIdentifierList_cons, hhead.1] at hlegal
    rcases hlegal.1 with hfirst | hfirst
    · cases hfirst
    · exact hhead.2.1 hfirst
  · rw [String.toList_append] at hident
    exact hhead.2.2 (List.cons.inj hident).1.symm

/-- **The method of an operation is legal** unless the first letter or digit of the operation's name
is a digit. -/
theorem legalMethod_methodIdent_iff (name : String) :
    LegalMethod (methodIdent name) ↔ ∀ c ∈ (letters name.toList).head?, c.isDigit = false := by
  -- the method is the escaped snake case, whose first character is the one asked about
  have hhead := head?_snakeCase name
  have hshape := snakeShaped_snakeCase name
  rw [← hhead, methodIdent]
  generalize snakeCase name = snake at hhead hshape
  cases hchars : snake.toList with
  | nil =>
    obtain rfl := String.toList_eq_nil_iff.1 hchars
    exact iff_of_true (.plain (by decide)) nofun
  | cons c cs =>
    rw [if_neg (fun hempty => by rw [String.isEmpty_iff.1 hempty] at hchars; cases hchars)]
    simp only [List.head?_cons, Option.mem_some_iff, forall_eq']
    cases hdigit : c.isDigit with
    | true =>
      exact iff_of_false (not_legalMethod_escapeKeyword hchars hdigit) Bool.noConfusion
    | false =>
      have hidentifier := isIdentifier_of_snakeShaped hchars hshape hdigit
      exact iff_of_true (legalMethod_escapeKeyword hidentifier) rfl

/-! ## Capital letters -/

/-- Outside of their range there are no small ASCII letters. -/
theorem isLower_ofNat_eq_false {n : Nat} (h : n < 97 ∨ 122 < n) :
    (Char.ofNat n).isLower = false := by
  unfold Char.ofNat
  by_cases hvalid : n.isValidChar
  · rw [dif_pos hvalid]
    show (decide (97 ≤ n) && decide (n ≤ 122)) = false
    rw [Bool.and_eq_false_imp, decide_eq_true_eq, decide_eq_false_iff_not]
    omega
  · rw [dif_neg hvalid]
    decide

/-- Beyond ASCII no simple mapping leads to a small ASCII letter. -/
theorem isLower_shiftedBy_upperRuns {n : Nat} (h : ¬ n < 0x80) :
    (Char.ofNat (shiftedBy upperRuns n)).isLower = false := by
  apply isLower_ofNat_eq_false
  unfold shiftedBy
  split
  · rename_i run hrun
    have hall : ∀ run ∈ upperRuns, run.last < 0x80 ∨ 122 < Int.ofNat run.first + run.shift ∨
        Int.ofNat run.last + run.shift < 97 := by
      decide +kernel
    have hapart := hall run (List.mem_of_find?_eq_some hrun)
    have hin := List.find?_some hrun
    simp only [Bool.and_eq_true, decide_eq_true_eq] at hin
    simp only [Int.ofNat_eq_natCast] at hapart ⊢
    omega
  · omega

/-- **The upper-case form of a character** is not empty, and it begins with no small ASCII
letter. -/
theorem upperChar_eq_cons (c : Char) : ∃ d ds, upperChar c = d :: ds ∧ d.isLower = false := by
  unfold upperChar
  split
  · rename_i hascii
    exact ⟨_, [], rfl, forall_ascii (p := fun c => c.toUpper.isLower = false) (by decide) hascii⟩
  · rename_i hbeyond
    unfold mapCase
    split
    · rename_i entry hentry
      have hall : ∀ entry ∈ upperSpecials,
          (entry.2.map Char.ofNat).head?.any (!·.isLower) = true := by
        decide
      have hhead := hall entry (List.mem_of_find?_eq_some hentry)
      cases hform : entry.2.map Char.ofNat with
      | nil =>
        rw [hform] at hhead
        cases hhead
      | cons d ds =>
        rw [hform] at hhead
        exact ⟨d, ds, rfl, by simpa using hhead⟩
    · exact ⟨_, [], rfl, isLower_shiftedBy_upperRuns hbeyond⟩

/-- With its first letter raised a text begins with no small letter. -/
theorem raised_capitalize (cs : List Char) : Raised (capitalize cs) := by
  cases cs with
  | nil => exact nofun
  | cons c cs =>
    obtain ⟨d, ds, hupper, hlower⟩ := upperChar_eq_cons c
    rw [capitalize, hupper]
    rintro _ ⟨⟩
    exact hlower

/-- A text keeps a letter or digit when its first character is raised. -/
theorem hasLetter_capitalized {text : String} (h : HasLetter text) :
    HasLetter (capitalized text) := by
  obtain ⟨letter, hletter, halnum⟩ := h
  unfold HasLetter capitalized
  rw [String.toList_ofList]
  cases hchars : text.toList with
  | nil =>
    rw [hchars] at hletter
    cases hletter
  | cons c cs =>
    rw [hchars] at hletter
    rcases List.mem_cons.1 hletter with rfl | hletter
    · have hascii := toNat_lt_of_isAlphanum halnum
      rw [capitalize, upperChar_ascii hascii]
      exact ⟨_, List.mem_cons_self, (isAlphanum_changedCase hascii).1.1.trans halnum⟩
    · exact ⟨letter, List.mem_append_right _ hletter, halnum⟩

/-! ## Names that extend others -/

/-- Whether a new word or a number may begin with the character. -/
def beginsPart (c : Char) : Bool := c.isUpper || c.isDigit

/-- What may stand after a name: letters and digits, a capital letter or a digit first. -/
structure Ending (cs : List Char) : Prop where
  alphanum : Alphanum cs
  first : cs.head?.all beginsPart = true

/-- The name is the other one with an ending. -/
def Extends (base name : String) : Prop :=
  ∃ ending, Ending ending ∧ name.toList = base.toList ++ ending

namespace Ending

variable {cs ds : List Char}

/-- Nothing may stand after a name. -/
theorem nil : Ending [] := ⟨nofun, rfl⟩

/-- One ending may follow another. -/
theorem append (h₁ : Ending cs) (h₂ : Ending ds) : Ending (cs ++ ds) where
  alphanum := h₁.alphanum.append h₂.alphanum
  first := by
    cases cs with
    | nil => exact h₂.first
    | cons c cs => exact h₁.first

/-- Whether something is an ending can be computed. -/
instance (cs : List Char) : Decidable (Ending cs) :=
  decidable_of_iff (Alphanum cs ∧ cs.head?.all beginsPart = true)
    ⟨fun h => ⟨h.1, h.2⟩, fun h => ⟨h.alphanum, h.first⟩⟩

/-- A capital letter first makes an ending of letters and digits. -/
theorem capitalize (h : Alphanum cs) : Ending (capitalize cs) where
  alphanum := alphanum_capitalize h
  first := by
    cases cs with
    | nil => rfl
    | cons c cs =>
      have hc := (List.forall_mem_cons.1 h).1
      have hascii := toNat_lt_of_isAlphanum hc
      rw [Text.capitalize, upperChar_ascii hascii]
      exact forall_ascii (p := fun c => c.isAlphanum = true → beginsPart c.toUpper = true)
        (by decide) hascii hc

/-- The exported form of a text is an ending. -/
theorem exportedAscii (text : String) : Ending (exportedAscii text).toList := by
  rw [Naming.exportedAscii, exported, String.toList_ofList]
  exact capitalize (alphanum_canonicalChars (plain_asciiWords text))

/-- A number is an ending. -/
theorem decimalText (n : Nat) : Ending (decimalText n).toList := by
  have hdigit : ∀ c ∈ (ClientForge.decimalText n).toList, c.isDigit = true :=
    fun _ hc => isDigit_of_mem_decimalText hc
  refine ⟨fun c hc => by rw [Char.isAlphanum, hdigit c hc, Bool.or_true], ?_⟩
  cases hchars : (ClientForge.decimalText n).toList with
  | nil => rfl
  | cons c cs =>
    rw [List.head?_cons, Option.all_some, beginsPart, hdigit c (hchars ▸ List.mem_cons_self),
      Bool.or_true]

end Ending

namespace Extends

variable {base name other : String}

/-- A name extends itself. -/
theorem refl (name : String) : Extends name name := ⟨[], .nil, (List.append_nil _).symm⟩

/-- What extends an extension extends the name. -/
theorem trans (h₁ : Extends base name) (h₂ : Extends name other) : Extends base other := by
  obtain ⟨first, hfirst, hname⟩ := h₁
  obtain ⟨second, hsecond, hother⟩ := h₂
  exact ⟨first ++ second, hfirst.append hsecond, by rw [hother, hname, List.append_assoc]⟩

/-- A name with an ending extends it. -/
theorem of_append {ending : String} (h : Ending ending.toList) : Extends base (base ++ ending) :=
  ⟨ending.toList, h, String.toList_append ..⟩

/-- The name for a part of a model extends that of the model. -/
theorem hoistedName (parent inner : String) : Extends parent (hoistedName parent inner) :=
  of_append (Ending.exportedAscii inner)

/-- Nothing that extends a name begins with a small letter if the name does not. -/
theorem raised (h : Extends base name) (hbase : Raised base.toList) : Raised name.toList := by
  obtain ⟨ending, hending, hname⟩ := h
  rw [hname]
  cases hchars : base.toList with
  | cons c cs =>
    rw [hchars] at hbase
    exact hbase
  | nil =>
    -- of a name without a character all is ending, which begins with a capital or a digit
    intro c hc
    rw [List.nil_append] at hc
    have hfirst := hending.first
    rw [Option.mem_def.1 hc, Option.all_some] at hfirst
    exact forall_ascii (p := fun c => beginsPart c = true → c.isLower = false) (by decide)
      (toNat_lt_of_isAlphanum (hending.alphanum c (List.mem_of_head? hc))) hfirst

/-- A claimed name extends the one wished for. -/
theorem claim (taken : Names) (preferred : String) :
    Extends preferred (taken.claim preferred).1 := by
  show Extends preferred (taken.freeName preferred fun n => preferred ++ decimalText n)
  rcases taken.freeName_spec preferred (typeVariant_injective preferred) with
    ⟨-, heq⟩ | ⟨-, n, -, heq, -⟩
  · rw [heq]
    exact refl preferred
  · rw [heq]
    exact of_append (Ending.decimalText n)

end Extends

/-- **A name that extends another is legal** exactly if the other is an identifier, `Self` apart,
where the other has a letter or digit and begins with no small one. -/
theorem legalName_iff_of_extends {base name : String} (hletter : HasLetter base)
    (hraised : Raised base.toList) (h : Extends base name) :
    LegalName name ↔ isIdentifier base = true ∧ name ≠ "Self" := by
  have hhead := h.raised hraised
  obtain ⟨ending, hending, hname⟩ := h
  have hidentifier : isIdentifier name = true ↔ isIdentifier base = true := by
    rw [isIdentifier, isIdentifier, hname]
    exact isIdentifierList_append hletter hending.alphanum
  rw [LegalName, hidentifier]
  refine and_congr_right fun _ => ⟨fun hkeyword => ?_, fun hself hkeyword => ?_⟩
  · rintro rfl
    exact hkeyword (by decide)
  · exact hself (eq_self_of_raised hkeyword hhead)

/-! ## Names of components -/

/-- A type name begins with a capital letter. -/
theorem head_typeName (key : String) :
    ∀ c ∈ (typeName key).toList.head?, c.isUpper = true := by
  unfold typeName
  split
  · rename_i hkept
    intro c hc
    rw [Bool.and_eq_true, Option.any_eq_true] at hkept
    obtain ⟨-, d, hd, hupper⟩ := hkept
    rw [hd] at hc
    cases hc
    exact hupper
  · have hfirst := (Ending.exportedAscii key).first
    generalize exportedAscii key = name at hfirst
    dsimp only
    split
    · rw [String.toList_append]
      rintro _ ⟨⟩
      decide
    · rename_i hdigit
      intro c hc
      rw [Option.mem_def.1 hc] at hfirst hdigit
      have hnone : c.isDigit = false := Bool.eq_false_iff.2 hdigit
      rwa [Option.all_some, beginsPart, hnone, Bool.or_false] at hfirst

/-- No type name begins with a small letter. -/
theorem raised_typeName (key : String) : Raised (typeName key).toList := by
  intro c hc
  have hupper := head_typeName key c hc
  exact forall_ascii (p := fun c => c.isUpper = true → c.isLower = false) (by decide)
    (toNat_lt_of_isAlphanum (Bool.or_eq_true_iff.2 (Or.inl (isAlpha_of_isUpper hupper)))) hupper

/-- The exported form of a text keeps a letter or digit. -/
theorem hasLetter_exportedAscii {key : String} (h : HasLetter key) :
    HasLetter (exportedAscii key) := by
  rw [hasLetter_iff, letters_exportedAscii]
  exact hasLetter_iff.1 h

/-- So does its type name. -/
theorem hasLetter_typeName {key : String} (h : HasLetter key) : HasLetter (typeName key) := by
  have hexported := hasLetter_exportedAscii h
  unfold typeName
  split
  · exact h
  · dsimp only
    split
    · obtain ⟨c, hc, halnum⟩ := hexported
      exact ⟨c, by rw [String.toList_append]; exact List.mem_append_right _ hc, halnum⟩
    · exact hexported

/-- **A type name is an identifier** if the key has a letter or digit at all. -/
theorem isIdentifier_typeName {key : String} (h : HasLetter key) :
    isIdentifier (typeName key) = true := by
  have hletter := hasLetter_typeName h
  have hplain := plain_typeName key
  have hhead := head_typeName key
  unfold isIdentifier
  cases hname : (typeName key).toList with
  | nil =>
    obtain ⟨c, hc, -⟩ := hletter
    rw [hname] at hc
    cases hc
  | cons c cs =>
    rw [hname] at hplain hhead
    have hupper : c.isUpper = true := hhead c rfl
    exact isIdentifierList_of_alpha (isAlpha_of_isUpper hupper)
      (List.forall_mem_cons.1 hplain).2

end ClientForge.Naming
