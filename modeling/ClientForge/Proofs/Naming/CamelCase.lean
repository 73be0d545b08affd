/-
  Camel case of what is camel-cased already.

  Names are put in camel case at several points of a run, and a name that was formed at one point may
  be formed again at another.  It should then come out as it went in.

  A camel-case form is one word, no separator being left in it (`canonicalChars_spec`): letters in
  lower case, later words with a capital in front, acronyms in their own spelling.  Formed again, one
  word is read in one of two ways (`canonicalChars_of_oneWord`): with ASCII letters of both cases it is
  taken for camel case and keeps its inner casing, and otherwise it is put in lower case.

  So a form is kept if it has letters of both cases and begins right, or has nothing to be put in lower
  case.  Not every form is like that.

  * Words of one letter give capitals only: `a_b` is exported as `AB`, and `AB` again as `Ab`.
  * Behind an initial separator the first word is empty and the next one is raised: the lowerCamel form
    of `_a` is `A`, which begins with a capital.

  No acronym is in play in either.  Which forms are kept is said of the form alone by `StaysLowerCamel`
  and `StaysUpperCamel`, for every text and not for ASCII only; that is why the tables of case have to
  be looked at: no character has a separator among its forms unless it is one.
-/
import ClientForge.Naming.Words
import ClientForge.Proofs.Text.Casing
import ClientForge.Proofs.Text.Parts

namespace ClientForge.Naming

open ClientForge.Text

/-! ## Separators -/

/-- No character of the text separates words. -/
def OneWord (cs : List Char) : Prop := ∀ c ∈ cs, asSeparator c ≠ '_'

/-- Whether a text is one word can be computed. -/
instance (cs : List Char) : Decidable (OneWord cs) :=
  decidable_of_iff (cs.all (asSeparator · != '_') = true) (by simp [OneWord])

/-- A character is a separator, or stands for itself. -/
theorem asSeparator_cases (c : Char) : asSeparator c = '_' ∨ asSeparator c = c := by
  unfold asSeparator
  split
  · exact Or.inl rfl
  · exact Or.inr rfl

/-- A table with no separator among its forms makes none. -/
theorem eq_of_mem_mapCase {specials : List (Nat × List Nat)} {runs : List CaseRun}
    (hall : ∀ n ∈ formCodes specials runs, asSeparator (Char.ofNat n) ≠ '_') {c d : Char}
    (hd : d ∈ mapCase specials runs c) (hsep : asSeparator d = '_') : d = c := by
  rcases mapCase_cases specials runs c with hsame | ⟨-, hforms⟩
  · rw [hsame] at hd
    exact List.mem_singleton.1 hd
  · obtain ⟨n, hn, rfl⟩ := hforms d hd
    exact absurd hsep (hall n hn)

/-- A separator in a lower-case form was one before. -/
theorem eq_of_mem_lowerChar {c d : Char} (hd : d ∈ lowerChar c) (hsep : asSeparator d = '_') :
    d = c := by
  rw [lowerChar_eq] at hd
  exact eq_of_mem_mapCase (by decide +kernel) hd hsep

/-- A separator in an upper-case form was one before. -/
theorem eq_of_mem_upperChar {c d : Char} (hd : d ∈ upperChar c) (hsep : asSeparator d = '_') :
    d = c := by
  rw [upperChar_eq] at hd
  exact eq_of_mem_mapCase (by decide +kernel) hd hsep

/-- A separator in a text in lower case was there before. -/
theorem mem_of_mem_lower {d : Char} {cs : List Char} (hd : d ∈ lower cs)
    (hsep : asSeparator d = '_') : d ∈ cs := by
  rcases mem_lowerAfter hd with ⟨c, hc, hd⟩ | rfl | rfl
  · rwa [eq_of_mem_lowerChar hd hsep]
  · cases hsep
  · cases hsep

namespace OneWord

variable {cs ds : List Char}

/-- Two texts without separators are one word together. -/
theorem append (h₁ : OneWord cs) (h₂ : OneWord ds) : OneWord (cs ++ ds) := by
  intro c hc
  rcases List.mem_append.1 hc with hc | hc
  · exact h₁ c hc
  · exact h₂ c hc

/-- One word has nothing to be written as an underscore. -/
theorem map_asSeparator (h : OneWord cs) : cs.map asSeparator = cs := by
  rw [List.map_congr_left fun c hc => (asSeparator_cases c).resolve_left (h c hc), List.map_id']

/-- One word has no underscore. -/
theorem not_mem (h : OneWord cs) : '_' ∉ cs := fun hmem => h '_' hmem rfl

/-- In lower case it stays one word. -/
theorem lower (h : OneWord cs) : OneWord (lower cs) :=
  fun d hd hsep => h d (mem_of_mem_lower hd hsep) hsep

/-- So it does with its first letter raised. -/
theorem capitalize (h : OneWord cs) : OneWord (capitalize cs) := by
  cases cs with
  | nil => exact h
  | cons c cs =>
    obtain ⟨hc, hcs⟩ := List.forall_mem_cons.1 h
    refine append (fun d hd hsep => hc ?_) hcs
    rwa [← eq_of_mem_upperChar hd hsep]

/-- And so it does with its first letter lowered. -/
theorem uncapitalize (h : OneWord cs) : OneWord (uncapitalize cs) := by
  cases cs with
  | nil => exact h
  | cons c cs =>
    obtain ⟨hc, hcs⟩ := List.forall_mem_cons.1 h
    refine append (fun d hd hsep => hc ?_) hcs
    rwa [← eq_of_mem_lowerChar hd hsep]

end OneWord

/-! ## Words -/

/-- An acronym is one word and begins with a capital. -/
theorem acronym?_spec {word : List Char} {spelling : String} (h : acronym? word = some spelling) :
    OneWord spelling.toList ∧ Capitalized spelling.toList := by
  have hi : Capital 'I' := ⟨by decide, 'i', by decide, by decide⟩
  have hu : Capital 'U' := ⟨by decide, 'u', by decide, by decide⟩
  unfold acronym? at h
  split at h <;> cases h <;> exact ⟨by decide, by rintro _ ⟨⟩; assumption⟩

/-- A later word of a name begins with a capital. -/
theorem laterWord_spec {word : List Char} (hword : OneWord word) (hsmall : ∀ c ∈ word, Small c) :
    OneWord (laterWord word) ∧ Capitalized (laterWord word) := by
  unfold laterWord
  split
  · rename_i spelling hacronym
    exact acronym?_spec hacronym
  · exact ⟨hword.capitalize,
      capitalized_capitalize fun c hc => Or.inl (hsmall c (List.mem_of_mem_head? hc))⟩

/-- A separator is written as an underscore. -/
theorem eq_of_mem_map_asSeparator {cs : List Char} {c : Char} (hc : c ∈ cs.map asSeparator)
    (hsep : asSeparator c = '_') : c = '_' := by
  obtain ⟨first, -, rfl⟩ := List.mem_map.1 hc
  rcases asSeparator_cases first with h | h
  · exact h
  · rw [h] at hsep ⊢
    exact h.symm.trans hsep

/-- The parts of a text in lower case are words. -/
theorem words_spec {cs word : List Char}
    (hword : word ∈ split '_' (lower (cs.map asSeparator))) :
    OneWord word ∧ ∀ c ∈ word, Small c := by
  constructor
  · intro c hc hsep
    obtain ⟨hmem, hne⟩ := mem_of_mem_split hword hc
    exact hne (eq_of_mem_map_asSeparator (mem_of_mem_lower hmem hsep) hsep)
  · intro c hc
    exact small_of_mem_lowerAfter (mem_of_mem_split hword hc).1

/-! ## Camel case -/

/-- **A camel-case form** is one word, and it begins small or with a capital that comes back. -/
theorem canonicalChars_spec (cs : List Char) :
    OneWord (canonicalChars cs) ∧ ∀ c ∈ (canonicalChars cs).head?, Small c ∨ Capital c := by
  unfold canonicalChars
  dsimp only
  split
  · rename_i hmixed
    rw [Bool.and_eq_true, Bool.not_eq_true', List.contains_eq_mem,
      decide_eq_false_iff_not] at hmixed
    constructor
    · apply OneWord.uncapitalize
      intro c hc hsep
      rw [eq_of_mem_map_asSeparator hc hsep] at hc
      exact hmixed.1 hc
    · intro c hc
      exact Or.inl (small_of_mem_head?_uncapitalize hc)
  · split
    · exact ⟨nofun, nofun⟩
    · rename_i first later hsplit
      have hwords : ∀ word ∈ first :: later, OneWord word ∧ ∀ c ∈ word, Small c :=
        fun word hword => words_spec (hsplit ▸ hword)
      obtain ⟨hfirst, hlater⟩ := List.forall_mem_cons.1 hwords
      have hlater : ∀ word ∈ later, OneWord (laterWord word) ∧ Capitalized (laterWord word) :=
        fun word hword => laterWord_spec (hlater word hword).1 (hlater word hword).2
      constructor
      · refine hfirst.1.append fun c hc => ?_
        obtain ⟨word, hword, hc⟩ := List.mem_flatMap.1 hc
        exact (hlater word hword).1 c hc
      · intro c hc
        -- the first character of the first word, or of a later one where the first is empty
        rw [List.head?_append, Option.mem_def, Option.or_eq_some_iff, List.head?_flatMap] at hc
        rcases hc with hc | ⟨-, hc⟩
        · exact Or.inl (hfirst.2 c (List.mem_of_mem_head? hc))
        · obtain ⟨word, hword, hc⟩ := List.exists_of_findSome?_eq_some hc
          exact Or.inr ((hlater word hword).2 c hc)

/-- **The camel-case form of one word.** -/
theorem canonicalChars_of_oneWord {cs : List Char} (h : OneWord cs) :
    canonicalChars cs = if isMixedCase cs then uncapitalize cs else lower cs := by
  have hcontains : cs.contains '_' = false := by
    rw [List.contains_eq_mem, decide_eq_false_iff_not]
    exact h.not_mem
  unfold canonicalChars
  dsimp only
  rw [h.map_asSeparator, hcontains, split_of_not_mem h.lower.not_mem]
  simp

/-! ## Forms that are kept -/

/-- A lowerCamel form that is the form of itself: nothing in it has a lower-case form of its own,
or it has ASCII letters of both cases and begins small. -/
def StaysLowerCamel (name : String) : Prop :=
  (∀ c ∈ name.toList, Small c) ∨
    isMixedCase name.toList = true ∧ ∀ c ∈ name.toList.head?, Small c

/-- An UpperCamel form that is the form of itself: nothing behind its first character has a
lower-case form of its own, or it has ASCII letters of both cases. -/
def StaysUpperCamel (name : String) : Prop :=
  (∀ c ∈ name.toList.tail, Small c) ∨ isMixedCase name.toList = true

/-- When one word is its own camel-case form. -/
theorem canonicalChars_eq_self_iff {cs : List Char} (h : OneWord cs) :
    canonicalChars cs = cs ↔
      (∀ c ∈ cs, Small c) ∨ isMixedCase cs = true ∧ ∀ c ∈ cs.head?, Small c := by
  rw [canonicalChars_of_oneWord h]
  split
  · rename_i hmixed
    rw [uncapitalize_eq_self_iff]
    constructor
    · intro hhead
      exact Or.inr ⟨hmixed, hhead⟩
    · rintro (hall | ⟨-, hhead⟩)
      · exact fun c hc => hall c (List.mem_of_mem_head? hc)
      · exact hhead
  · rename_i hmixed
    rw [or_iff_left fun hboth => hmixed hboth.1]
    exact lowerAfter_eq_self_iff

/-- When one word with a capital in front is its own exported form. -/
theorem capitalize_canonicalChars_eq_self_iff {cs : List Char} (h : OneWord cs)
    (hcapital : Capitalized cs) :
    capitalize (canonicalChars cs) = cs ↔ (∀ c ∈ cs.tail, Small c) ∨ isMixedCase cs = true := by
  rw [canonicalChars_of_oneWord h]
  split
  · rename_i hmixed
    exact iff_of_true hcapital.capitalize_uncapitalize (Or.inr hmixed)
  · rename_i hmixed
    rw [or_iff_left hmixed]
    exact hcapital.capitalize_lower_iff

/-- **When camel case is kept.** For every text, forming the lowerCamel form of its lowerCamel form
changes nothing exactly if that form begins small and has ASCII letters of both cases, or is in
lower case; and forming the UpperCamel form of its UpperCamel form changes nothing exactly if that
form has ASCII letters of both cases, or is in lower case behind its first character. -/
theorem camelCase_kept_iff (text : String) :
    (canonical (canonical text) = canonical text ↔ StaysLowerCamel (canonical text)) ∧
      (exported (exported text) = exported text ↔ StaysUpperCamel (exported text)) := by
  obtain ⟨hword, hhead⟩ := canonicalChars_spec text.toList
  constructor
  · unfold StaysLowerCamel canonical
    rw [String.toList_ofList, String.ofList_inj]
    exact canonicalChars_eq_self_iff hword
  · unfold StaysUpperCamel exported
    rw [String.toList_ofList, String.ofList_inj]
    exact capitalize_canonicalChars_eq_self_iff hword.capitalize (capitalized_capitalize hhead)

-- no acronym, and not kept: an initial separator, and words of one letter
example : canonical "_a" = "A" ∧ canonical "A" = "a" := by decide +kernel
example : exported "a_b" = "AB" ∧ exported "AB" = "Ab" := by decide +kernel

end ClientForge.Naming
