/-
  What naming does to the letters and digits of a text.

  Naming moves separators and changes case: it puts in underscores and takes them out, raises first
  letters and spells acronyms.  But it neither drops, adds nor moves an ASCII letter or digit.  So two
  texts that get one name have the same letters and digits in the same order, case aside.

  `letters` is what is left of a text when all else is taken away and the rest is put in lower case.
  Each form of a name has a lemma that says it has the letters of the text, and the lemmas follow the
  way in which the form is made:

  * characters beyond ASCII are made into separators first, so everything after that is about plain
    characters (`letters_asciiWords`);
  * camel case cuts at separators and changes case word by word (`letters_canonicalChars`);
  * snake case writes the characters again, with underscores between some of them and none at the ends
    (`letters_snakeFrom`, `letters_snakeCase`).

  Acronyms are replaced as whole words by a table, and it is only there that something could be added;
  their spellings have the letters of the words they stand for.
-/
import ClientForge.Proofs.Naming.Shape

namespace ClientForge.Naming

open ClientForge.Text

/-- The ASCII letters and digits of a text in their order, all in lower case. -/
def letters (cs : List Char) : List Char := (cs.filter Char.isAlphanum).map Char.toLower

/-- A letter or digit in front is kept in lower case. -/
theorem letters_cons_of_alphanum {c : Char} (h : c.isAlphanum = true) (cs : List Char) :
    letters (c :: cs) = c.toLower :: letters cs := by
  rw [letters, List.filter_cons_of_pos h, List.map_cons]
  rfl

/-- Anything else in front is left out. -/
theorem letters_cons_of_not_alphanum {c : Char} (h : c.isAlphanum = false) (cs : List Char) :
    letters (c :: cs) = letters cs := by
  rw [letters, List.filter_cons_of_neg (by simp [h])]
  rfl

/-- The letters of two texts are those of the one and then those of the other. -/
@[simp] theorem letters_append (first second : List Char) :
    letters (first ++ second) = letters first ++ letters second := by
  rw [letters, List.filter_append, List.map_append]
  rfl

/-- An underscore is no letter. -/
@[simp] theorem letters_underscore (cs : List Char) : letters ('_' :: cs) = letters cs :=
  letters_cons_of_not_alphanum (by decide) cs

/-- **A text with a letter or digit keeps it.** -/
theorem letters_ne_nil_iff {cs : List Char} : letters cs ≠ [] ↔ ∃ c ∈ cs, c.isAlphanum = true := by
  rw [letters, ne_eq, List.map_eq_nil_iff, List.filter_eq_nil_iff]
  constructor
  · intro h
    obtain ⟨c, hc⟩ := Classical.not_forall.1 h
    exact ⟨c, by simpa using hc⟩
  · rintro ⟨c, hc, halnum⟩ hnone
    exact hnone c hc halnum

/-! ## Changes of case -/

/-- Characters that differ in case only stand for one letter. -/
theorem letters_cons_congr {c d : Char} {cs ds : List Char} (halnum : d.isAlphanum = c.isAlphanum)
    (hlower : d.toLower = c.toLower) (hrest : letters ds = letters cs) :
    letters (d :: ds) = letters (c :: cs) := by
  cases hc : c.isAlphanum with
  | true =>
    rw [letters_cons_of_alphanum (halnum.trans hc), letters_cons_of_alphanum hc, hlower, hrest]
  | false =>
    rw [letters_cons_of_not_alphanum (halnum.trans hc), letters_cons_of_not_alphanum hc, hrest]

/-- Raising the first letter keeps the letters. -/
theorem letters_capitalize {cs : List Char} (h : Plain cs) :
    letters (capitalize cs) = letters cs := by
  cases cs with
  | nil => rfl
  | cons c cs =>
    have hc := toNat_lt_of_isIdentifierChar (List.forall_mem_cons.1 h).1
    obtain ⟨⟨halnum, hlower⟩, -⟩ := isAlphanum_changedCase hc
    rw [capitalize, upperChar_ascii hc]
    exact letters_cons_congr halnum hlower rfl

/-- Lowering it does. -/
theorem letters_uncapitalize {cs : List Char} (h : Plain cs) :
    letters (uncapitalize cs) = letters cs := by
  cases cs with
  | nil => rfl
  | cons c cs =>
    have hc := toNat_lt_of_isIdentifierChar (List.forall_mem_cons.1 h).1
    obtain ⟨-, halnum, hlower⟩ := isAlphanum_changedCase hc
    rw [uncapitalize, lowerChar_ascii hc]
    exact letters_cons_congr halnum hlower rfl

/-- So does lower case. -/
theorem letters_lowerAfter {before cs : List Char} (h : Plain cs) :
    letters (lowerAfter before cs) = letters cs := by
  induction cs generalizing before with
  | nil => rfl
  | cons c cs ih =>
    obtain ⟨hc, hcs⟩ := List.forall_mem_cons.1 h
    obtain ⟨-, halnum, hlower⟩ := isAlphanum_changedCase (toNat_lt_of_isIdentifierChar hc)
    rw [lowerAfter_cons_ascii (toNat_lt_of_isIdentifierChar hc)]
    exact letters_cons_congr halnum hlower (ih hcs)

/-! ## Camel case -/

/-- Cutting at underscores takes nothing away. -/
theorem letters_split (cs : List Char) :
    letters cs = (split '_' cs).flatMap letters := by
  induction cs with
  | nil => rfl
  | cons c cs ih =>
    unfold split
    split
    · rename_i hc
      subst hc
      rw [letters_underscore, ih]
      rfl
    · cases hwords : split '_' cs with
      | nil => exact absurd hwords (split_ne_nil '_' cs)
      | cons word words =>
        rw [hwords] at ih
        dsimp only
        cases hc : c.isAlphanum with
        | true =>
          rw [letters_cons_of_alphanum hc, ih, List.flatMap_cons, List.flatMap_cons,
            letters_cons_of_alphanum hc, List.cons_append]
        | false =>
          rw [letters_cons_of_not_alphanum hc, ih, List.flatMap_cons, List.flatMap_cons,
            letters_cons_of_not_alphanum hc]

/-- A later word of a name has its letters, be it an acronym or not. -/
theorem letters_laterWord {word : List Char} (h : Plain word) :
    letters (laterWord word) = letters word := by
  unfold laterWord
  split
  · rename_i spelling hacronym
    unfold acronym? at hacronym
    split at hacronym
    case h_7 => cases hacronym
    all_goals
      rename_i hword
      cases hacronym
      rw [← String.toList_ofList (l := word), hword]
      decide
  · exact letters_capitalize h

/-- Camel case has the letters of its text. -/
theorem letters_canonicalChars {cs : List Char} (h : Plain cs) :
    letters (canonicalChars cs) = letters cs := by
  unfold canonicalChars
  dsimp only
  rw [map_asSeparator h]
  -- One word only loses the capital of its first letter; several are lowered, parted at the
  -- underscores and capitalized, and none of these steps adds or drops a letter.
  split
  · exact letters_uncapitalize h
  · have hlower : Plain (lower cs) := plain_lowerAfter h
    have hparts : ∀ part ∈ split '_' (lower cs), Plain part :=
      fun part hpart c hc => hlower c (mem_of_mem_split hpart hc).1
    have hletters : letters (lower cs) = letters cs := letters_lowerAfter h
    rw [← hletters, letters_split (lower cs)]
    cases hsplit : split '_' (lower cs) with
    | nil => exact absurd hsplit (split_ne_nil '_' _)
    | cons first later =>
      rw [hsplit] at hparts
      -- The words after the first are raised one by one.
      have hlater : ∀ words : List (List Char), (∀ word ∈ words, Plain word) →
          letters (words.flatMap laterWord) = words.flatMap letters := by
        intro words hwords
        induction words with
        | nil => rfl
        | cons word rest ih =>
          obtain ⟨hword, hrest⟩ := List.forall_mem_cons.1 hwords
          rw [List.flatMap_cons, List.flatMap_cons, letters_append, letters_laterWord hword,
            ih hrest]
      rw [letters_append, hlater later (List.forall_mem_cons.1 hparts).2, List.flatMap_cons]

/-- So has what is left when all beyond ASCII is made a separator. -/
theorem letters_asciiWords (text : String) :
    letters (asciiWords text).toList = letters text.toList := by
  rw [asciiWords, String.toList_ofList]
  induction text.toList with
  | nil => rfl
  | cons c cs ih =>
    rw [List.map_cons]
    cases hc : c.isAlphanum with
    | true => rw [if_pos rfl, letters_cons_of_alphanum hc, letters_cons_of_alphanum hc, ih]
    | false =>
      rw [if_neg Bool.false_ne_true, letters_underscore, letters_cons_of_not_alphanum hc, ih]

/-- **The exported form of a text** has its letters and digits. -/
theorem letters_exportedAscii (text : String) :
    letters (exportedAscii text).toList = letters text.toList := by
  have hplain := plain_asciiWords text
  rw [exportedAscii, exported, String.toList_ofList,
    letters_capitalize (alphanum_canonicalChars hplain).plain, letters_canonicalChars hplain,
    letters_asciiWords]

/-! ## Snake case -/

/-- Writing snake case keeps the letters. -/
theorem letters_snakeFrom (prev last : Option Char) (cs : List Char) :
    letters (snakeFrom prev last cs) = letters cs := by
  induction cs generalizing prev last with
  | nil => rfl
  | cons c rest ih =>
    unfold snakeFrom
    cases hc : c.isAlphanum with
    | true =>
      obtain ⟨-, halnum, hlower⟩ := isAlphanum_changedCase (toNat_lt_of_isAlphanum hc)
      have hhere : letters (c.toLower :: snakeFrom (some c) (some c.toLower) rest) =
          letters (c :: rest) := letters_cons_congr halnum hlower (ih _ _)
      simp only [Bool.not_true, Bool.false_eq_true, if_false]
      split
      · rw [letters_underscore, hhere]
      · exact hhere
    | false =>
      simp only [Bool.not_false, if_true, letters_cons_of_not_alphanum hc]
      split
      · exact ih _ _
      · rw [letters_underscore, ih]

/-- Underscores in front can be taken off. -/
theorem letters_dropWhile_underscore (cs : List Char) :
    letters (cs.dropWhile isUnderscore) = letters cs := by
  induction cs with
  | nil => rfl
  | cons c rest ih =>
    by_cases hc : c = '_'
    · subst hc
      rw [List.dropWhile_cons_of_pos (by decide), ih, letters_underscore]
    · rw [List.dropWhile_cons_of_neg (by simpa [isUnderscore] using hc)]

/-- The letters of a text backwards. -/
theorem letters_reverse (cs : List Char) : letters cs.reverse = (letters cs).reverse := by
  rw [letters, List.filter_reverse, List.map_reverse]
  rfl

/-- Underscores at the end can be taken off. -/
theorem letters_dropEndWhile_underscore (cs : List Char) :
    letters (dropEndWhile isUnderscore cs) = letters cs := by
  rw [dropEndWhile, letters_reverse, letters_dropWhile_underscore, letters_reverse,
    List.reverse_reverse]

/-- **The snake-case form of a text** has its letters and digits. -/
theorem letters_snakeCase (text : String) :
    letters (snakeCase text).toList = letters text.toList := by
  rw [snakeCase, String.toList_ofList, letters_dropEndWhile_underscore,
    letters_dropWhile_underscore, letters_snakeFrom]

end ClientForge.Naming
