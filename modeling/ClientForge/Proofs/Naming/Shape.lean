/-
  Which characters an identifier is made of.

  Much of what is true of names is true because of the characters that can occur in them.  There are
  three sorts, each in the next:

  * what snake case writes: small ASCII letters, digits and underscores (`isSnakeChar`);
  * what may stand inside a plain identifier: ASCII letters of both cases, digits and underscores
    (`Plain`), and without the underscores `Alphanum`;
  * what may stand in an identifier that is written out, which besides small letters, digits and
    underscores may have the mark of a raw form (`IdentShaped`).

  Snake case writes nothing but the first sort, whatever the text is, and a number that keeps
  identifiers apart adds nothing else.  Camel case leaves letters and digits only of what may stand in
  an identifier, once everything beyond ASCII has been made a separator; so the name of a type has
  characters of the second sort.

  The characters of a text beyond ASCII are gone before case is changed, and an ASCII character has one
  lower-case form wherever it stands.  This is what `forall_ascii` is for: a statement about ASCII
  characters is checked on all of them.
-/
import ClientForge.Naming.Identifier
import ClientForge.Proofs.Naming.Fresh
import ClientForge.Proofs.Text.Parts

namespace ClientForge.Naming

open ClientForge.Text

/-- Whether the character may stand in an identifier, its raw mark included. -/
def isIdentChar (c : Char) : Bool := c.isLower || c.isDigit || c == '_' || c == '#'

/-- Whether snake case may write the character. -/
def isSnakeChar (c : Char) : Bool := c.isLower || c.isDigit || c == '_'

/-- Whether every character of the text may stand in an identifier. -/
def IdentShaped (ident : String) : Prop := ∀ c ∈ ident.toList, isIdentChar c = true

/-- Whether a text has the characters of an identifier can be computed. -/
instance (ident : String) : Decidable (IdentShaped ident) :=
  decidable_of_iff (ident.toList.all isIdentChar = true) List.all_eq_true

/-- Two such texts make one. -/
theorem IdentShaped.append {first second : String} (h₁ : IdentShaped first)
    (h₂ : IdentShaped second) : IdentShaped (first ++ second) := by
  intro c hc
  rw [String.toList_append] at hc
  rcases List.mem_append.1 hc with hc | hc
  · exact h₁ c hc
  · exact h₂ c hc

/-! ## Characters -/

/-- A letter or digit in lower case is a small letter or a digit. -/
theorem isLower_or_isDigit_toLower {c : Char} (h : c.isAlphanum = true) :
    c.toLower.isLower = true ∨ c.toLower.isDigit = true := by
  have hA : ('A' : Char).val.toNat = 65 := rfl
  have hZ : ('Z' : Char).val.toNat = 90 := rfl
  have ha : ('a' : Char).val.toNat = 97 := rfl
  have hz : ('z' : Char).val.toNat = 122 := rfl
  unfold Char.toLower
  split
  · -- the small letters stand thirty-two places behind the capital ones
    rename_i hupper
    left
    have hgap : ('a'.val - 'A'.val).toNat = 32 := rfl
    simp only [UInt32.le_iff_toNat_le, hA, hZ, ge_iff_le] at hupper
    show (decide (_ ≥ 'a'.val) && decide (_ ≤ 'z'.val)) = true
    simp only [ge_iff_le, UInt32.le_iff_toNat_le, UInt32.toNat_add, ha, hz, Bool.and_eq_true,
      decide_eq_true_eq]
    omega
  · rename_i hupper
    have hcases : (c.isUpper || c.isLower || c.isDigit) = true := h
    rw [Bool.or_eq_true, Bool.or_eq_true] at hcases
    rcases hcases with (hcapital | hsmall) | hdigit
    · exact absurd (of_decide_eq_true hcapital) hupper
    · exact Or.inl hsmall
    · exact Or.inr hdigit

/-- Snake case may write it. -/
theorem isSnakeChar_toLower {c : Char} (h : c.isAlphanum = true) :
    isSnakeChar c.toLower = true := by
  unfold isSnakeChar
  rcases isLower_or_isDigit_toLower h with h | h
  · rw [h, Bool.true_or, Bool.true_or]
  · rw [h, Bool.or_true, Bool.true_or]

/-- A number has the characters of an identifier. -/
theorem identShaped_decimalText (n : Nat) : IdentShaped (decimalText n) := by
  intro c hc
  rw [isIdentChar, isDigit_of_mem_decimalText hc, Bool.or_true, Bool.true_or, Bool.true_or]

/-! ## Snake case -/

/-- Writing snake case, from whatever has been written, brings no other character in. -/
theorem isSnakeChar_of_mem_snakeFrom {prev last : Option Char} {cs : List Char} {c : Char}
    (h : c ∈ snakeFrom prev last cs) : isSnakeChar c = true := by
  induction cs generalizing prev last with
  | nil => cases h
  -- An underscore is put at a boundary only; what is put otherwise is a letter or digit, lowered.
  | cons first rest ih =>
    unfold snakeFrom at h
    by_cases halnum : first.isAlphanum = true
    · have hhere : c ∈ first.toLower :: snakeFrom (some first) (some first.toLower) rest →
          isSnakeChar c = true := by
        intro hmem
        rcases List.mem_cons.1 hmem with rfl | hmem
        · exact isSnakeChar_toLower halnum
        · exact ih hmem
      simp only [halnum, Bool.not_true, Bool.false_eq_true, if_false] at h
      split at h
      · rcases List.mem_cons.1 h with rfl | h
        · decide
        · exact hhere h
      · exact hhere h
    · rw [if_pos (by simp [halnum])] at h
      split at h
      · exact ih h
      · rcases List.mem_cons.1 h with rfl | h
        · decide
        · exact ih h

/-- **Snake case** has no other characters. -/
theorem isSnakeChar_of_mem_snakeCase {text : String} {c : Char}
    (hc : c ∈ (snakeCase text).toList) : isSnakeChar c = true := by
  unfold snakeCase Text.dropEndWhile at hc
  rw [String.toList_ofList, List.mem_reverse] at hc
  have hdrop := (List.dropWhile_sublist _).subset hc
  rw [List.mem_reverse] at hdrop
  exact isSnakeChar_of_mem_snakeFrom ((List.dropWhile_sublist _).subset hdrop)

/-! ## Identifiers -/

/-- The keywords without a raw form are keywords. -/
theorem bareKeywords_subset : bareKeywords ⊆ keywords := by
  intro word hword
  have hall : ∀ word ∈ bareKeywords, word ∈ keywords := by decide
  exact hall word hword

/-- What is no keyword is not escaped. -/
theorem escapeKeyword_of_not_mem {ident : String} (h : ident ∉ keywords) :
    escapeKeyword ident = ident := by
  have hbare : ident ∉ bareKeywords := fun hmem => h (bareKeywords_subset hmem)
  rw [escapeKeyword, if_neg (by simpa using hbare), if_neg (by simpa using h)]

/-- Handing out free identifiers adds no other characters. -/
theorem identShaped_claimIdents {taken : Names} {wishes : List String} {ident : String}
    (hwishes : ∀ wish ∈ wishes, IdentShaped wish) (h : ident ∈ taken.claimIdents wishes) :
    IdentShaped ident := by
  have hunderscore : IdentShaped "_" := by decide
  obtain ⟨wish, hwish, rfl | ⟨n, rfl⟩⟩ := Names.claimIdents_eq h
  · exact hwishes ident hwish
  · exact ((hwishes wish hwish).append hunderscore).append (identShaped_decimalText n)

/-! ## Type names -/

/-- Whether every character of the text may stand inside a plain identifier. -/
def Plain (cs : List Char) : Prop := ∀ c ∈ cs, isIdentifierChar c = true

/-- Whether a text is plain can be computed. -/
instance (cs : List Char) : Decidable (Plain cs) :=
  decidable_of_iff (cs.all isIdentifierChar = true) List.all_eq_true

/-- A character of a plain identifier is an ASCII character. -/
theorem toNat_lt_of_isIdentifierChar {c : Char} (h : isIdentifierChar c = true) :
    c.toNat < 0x80 := by
  have hcases : (decide (c.val ≥ 'A'.val ∧ c.val ≤ 'Z'.val)
      || decide (c.val ≥ 'a'.val) && decide (c.val ≤ 'z'.val)
      || decide (c.val ≥ '0'.val) && decide (c.val ≤ '9'.val) || c == '_') = true := h
  simp only [Bool.or_eq_true, Bool.and_eq_true, decide_eq_true_eq, ge_iff_le,
    UInt32.le_iff_toNat_le, beq_iff_eq] at hcases
  rcases hcases with ((⟨-, h⟩ | ⟨-, h⟩) | ⟨-, h⟩) | rfl
  · exact Nat.lt_of_le_of_lt h (by decide)
  · exact Nat.lt_of_le_of_lt h (by decide)
  · exact Nat.lt_of_le_of_lt h (by decide)
  · decide

/-- What holds of every ASCII character: there are few enough to look at all. -/
theorem forall_ascii {p : Char → Prop} (hall : ∀ n < 0x80, p (Char.ofNat n)) {c : Char}
    (h : c.toNat < 0x80) : p c := by
  have hc := hall c.toNat h
  rwa [Char.ofNat_toNat] at hc

/-- Case makes no difference to what an ASCII character counts as, nor to its lower-case form. -/
theorem isAlphanum_changedCase {c : Char} (h : c.toNat < 0x80) :
    (c.toUpper.isAlphanum = c.isAlphanum ∧ c.toUpper.toLower = c.toLower) ∧
      c.toLower.isAlphanum = c.isAlphanum ∧ c.toLower.toLower = c.toLower :=
  forall_ascii (p := fun c => (c.toUpper.isAlphanum = c.isAlphanum ∧
    c.toUpper.toLower = c.toLower) ∧ c.toLower.isAlphanum = c.isAlphanum ∧
    c.toLower.toLower = c.toLower) (by decide) h

/-- Whatever snake case writes may stand in an identifier. -/
theorem isIdentifierChar_of_isSnakeChar {c : Char} (h : isSnakeChar c = true) :
    isIdentifierChar c = true := by
  rw [isSnakeChar, Bool.or_eq_true_iff, Bool.or_eq_true_iff] at h
  rw [isIdentifierChar, Bool.or_eq_true_iff]
  rcases h with (hlower | hdigit) | hunderscore
  · exact Or.inl (Bool.or_eq_true_iff.2 (Or.inl (Bool.or_eq_true_iff.2 (Or.inr hlower))))
  · exact Or.inl (Bool.or_eq_true_iff.2 (Or.inr hdigit))
  · exact Or.inr hunderscore

/-- What snake case writes is in lower case; all but the underscore is a letter or digit. -/
theorem alphanum_of_isSnakeChar {c : Char} (h : isSnakeChar c = true) (hne : c ≠ '_') :
    c.isAlphanum = true ∧ c.toLower = c :=
  forall_ascii (p := fun c => isSnakeChar c = true → c ≠ '_' → c.isAlphanum = true ∧ c.toLower = c)
    (by decide) (toNat_lt_of_isIdentifierChar (isIdentifierChar_of_isSnakeChar h)) h hne

/-- So may a character of one in lower case. -/
theorem isIdentifierChar_toLower {c : Char} (h : isIdentifierChar c = true) :
    isIdentifierChar c.toLower = true := by
  cases hc : c.isAlphanum with
  | true => rw [isIdentifierChar, (isAlphanum_changedCase (toNat_lt_of_isIdentifierChar h)).2.1, hc,
      Bool.true_or]
  | false =>
    rw [isIdentifierChar, hc, Bool.false_or] at h
    obtain rfl := eq_of_beq h
    decide

/-- Whether every character of the text is an ASCII letter or digit. -/
def Alphanum (cs : List Char) : Prop := ∀ c ∈ cs, c.isAlphanum = true

/-- Whether a text is letters and digits can be computed. -/
instance (cs : List Char) : Decidable (Alphanum cs) :=
  decidable_of_iff (cs.all Char.isAlphanum = true) List.all_eq_true

/-- Letters and digits may stand in an identifier. -/
theorem Alphanum.plain {cs : List Char} (h : Alphanum cs) : Plain cs := by
  intro c hc
  rw [isIdentifierChar, h c hc, Bool.true_or]

/-- Two texts of letters and digits make one. -/
theorem Alphanum.append {first second : List Char} (h₁ : Alphanum first) (h₂ : Alphanum second) :
    Alphanum (first ++ second) := by
  intro c hc
  rcases List.mem_append.1 hc with hc | hc
  · exact h₁ c hc
  · exact h₂ c hc

/-- An ASCII letter or digit is an ASCII character. -/
theorem toNat_lt_of_isAlphanum {c : Char} (h : c.isAlphanum = true) : c.toNat < 0x80 :=
  toNat_lt_of_isIdentifierChar (by rw [isIdentifierChar, h, Bool.true_or])

/-- Of the characters of an identifier only the underscore is neither a letter nor a digit. -/
theorem Plain.alphanum {cs : List Char} (h : Plain cs) (hnone : '_' ∉ cs) : Alphanum cs := by
  intro c hc
  have hplain := h c hc
  rw [isIdentifierChar, Bool.or_eq_true] at hplain
  rcases hplain with halnum | hunderscore
  · exact halnum
  · rw [eq_of_beq hunderscore] at hc
    exact absurd hc hnone

/-- Raising the first letter leaves letters and digits. -/
theorem alphanum_capitalize {cs : List Char} (h : Alphanum cs) : Alphanum (capitalize cs) := by
  cases cs with
  | nil => exact h
  | cons c cs =>
    obtain ⟨hc, hcs⟩ := List.forall_mem_cons.1 h
    have hascii := toNat_lt_of_isAlphanum hc
    rw [capitalize, upperChar_ascii hascii]
    exact List.forall_mem_cons.2 ⟨(isAlphanum_changedCase hascii).1.1.trans hc, hcs⟩

/-- Lowering it does. -/
theorem alphanum_uncapitalize {cs : List Char} (h : Alphanum cs) : Alphanum (uncapitalize cs) := by
  cases cs with
  | nil => exact h
  | cons c cs =>
    obtain ⟨hc, hcs⟩ := List.forall_mem_cons.1 h
    have hascii := toNat_lt_of_isAlphanum hc
    rw [uncapitalize, lowerChar_ascii hascii]
    exact List.forall_mem_cons.2 ⟨(isAlphanum_changedCase hascii).2.1.trans hc, hcs⟩

/-- An ASCII character has one lower-case form, wherever it stands. -/
theorem lowerAfter_cons_ascii {c : Char} (h : c.toNat < 0x80) (before cs : List Char) :
    lowerAfter before (c :: cs) = c.toLower :: lowerAfter (c :: before) cs := by
  have hsigma : (c.toNat == 0x3A3) = false := by
    rw [beq_eq_false_iff_ne]
    omega
  rw [lowerAfter, hsigma, lowerChar_ascii h]
  rfl

/-- In lower case a plain text stays plain. -/
theorem plain_lowerAfter {before cs : List Char} (h : Plain cs) : Plain (lowerAfter before cs) := by
  induction cs generalizing before with
  | nil => exact h
  | cons c cs ih =>
    obtain ⟨hc, hcs⟩ := List.forall_mem_cons.1 h
    rw [lowerAfter_cons_ascii (toNat_lt_of_isIdentifierChar hc)]
    exact List.forall_mem_cons.2 ⟨isIdentifierChar_toLower hc, ih hcs⟩

/-- A later word of a name has letters and digits only. -/
theorem alphanum_laterWord {word : List Char} (h : Alphanum word) : Alphanum (laterWord word) := by
  unfold laterWord
  split
  · rename_i spelling hacronym
    unfold acronym? at hacronym
    split at hacronym <;> cases hacronym <;> decide
  · exact alphanum_capitalize h

/-- In a plain text only underscores are separators. -/
theorem map_asSeparator {cs : List Char} (h : Plain cs) : cs.map asSeparator = cs := by
  have hsame : ∀ c ∈ cs, asSeparator c = c := by
    intro c hc
    have hne : ∀ sep, isIdentifierChar sep = false → c ≠ sep := by
      rintro sep hsep rfl
      rw [h c hc] at hsep
      cases hsep
    rw [asSeparator, if_neg]
    simp [hne '-' (by decide), hne '.' (by decide), hne ' ' (by decide)]
  rw [List.map_congr_left hsame, List.map_id']

/-- **Camel case** leaves letters and digits only of what may stand in an identifier. -/
theorem alphanum_canonicalChars {cs : List Char} (h : Plain cs) :
    Alphanum (canonicalChars cs) := by
  unfold canonicalChars
  dsimp only
  rw [map_asSeparator h]
  split
  · rename_i hmixed
    rw [Bool.and_eq_true, Bool.not_eq_true', List.contains_eq_mem,
      decide_eq_false_iff_not] at hmixed
    exact alphanum_uncapitalize (h.alphanum hmixed.1)
  · have hlower : Plain (lower cs) := plain_lowerAfter h
    have hparts : ∀ part ∈ split '_' (lower cs), Alphanum part := fun part hpart =>
      Plain.alphanum (fun c hc => hlower c (mem_of_mem_split hpart hc).1)
        fun hc => (mem_of_mem_split hpart hc).2 rfl
    split
    · exact nofun
    · rename_i first later hsplit
      rw [hsplit] at hparts
      obtain ⟨hfirst, hlater⟩ := List.forall_mem_cons.1 hparts
      refine hfirst.append fun c hc => ?_
      obtain ⟨word, hword, hc⟩ := List.mem_flatMap.1 hc
      exact alphanum_laterWord (hlater word hword) c hc

/-- What is left when all beyond ASCII is made a separator is plain. -/
theorem plain_asciiWords (text : String) : Plain (asciiWords text).toList := by
  intro c hc
  rw [asciiWords, String.toList_ofList] at hc
  obtain ⟨other, -, rfl⟩ := List.mem_map.1 hc
  split
  · rename_i h
    rw [isIdentifierChar, h, Bool.true_or]
  · decide

/-- **An exported form** has letters and digits only. -/
theorem alphanum_exportedAscii (text : String) : Alphanum (exportedAscii text).toList := by
  rw [exportedAscii, exported, String.toList_ofList]
  exact alphanum_capitalize (alphanum_canonicalChars (plain_asciiWords text))

/-- **A type name** has no characters but those of a plain identifier. -/
theorem plain_typeName (key : String) : Plain (typeName key).toList := by
  have hexported : Plain (exportedAscii key).toList := (alphanum_exportedAscii key).plain
  unfold typeName
  split
  · -- A name kept as it is was checked to be an identifier of plain characters.
    rename_i h
    rw [Bool.and_eq_true] at h
    have hidentifier := h.1
    unfold isIdentifier at hidentifier
    cases hkey : key.toList with
    | nil => exact nofun
    | cons c cs =>
      rw [hkey] at hidentifier
      simp only [isIdentifierList, Bool.and_eq_true, List.all_eq_true] at hidentifier
      refine List.forall_mem_cons.2 ⟨?_, hidentifier.1.2⟩
      have hfirst : (c.isAlpha || c == '_') = true := hidentifier.1.1
      rw [isIdentifierChar, Char.isAlphanum]
      rcases Bool.or_eq_true .. ▸ hfirst with hletter | hunderscore
      · rw [hletter, Bool.true_or, Bool.true_or]
      · rw [hunderscore, Bool.or_true]
  · -- A name made from its letters has no other mark than an underscore in front of a digit.
    dsimp only
    split
    · rw [String.toList_append]
      exact List.forall_mem_cons.2 ⟨by decide, hexported⟩
    · exact hexported

end ClientForge.Naming
