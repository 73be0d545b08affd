/-
  Snake case is words joined by single underscores.

  Snake case is written character by character.  Letters are put in lower case, an underscore goes in
  front of a capital that begins a word, and whatever is neither a letter nor a digit becomes an
  underscore; none is written behind another one, and those at the two ends are taken off at the end.

  1. **No two stand side by side** (`spaced_snakeFrom`).  What is written depends on the character
     written last, so the induction along the text has to carry it: the statement is about the row with
     that character in front.
  2. **The shape** (`SnakeShaped`).  Small letters, digits and single underscores, none at an end.  Cut
     at its underscores, a text of this shape falls into words that are not empty
     (`SnakeShaped.exists_words`); without the second and third condition some could be.
  3. **Once is enough** (`SnakeShaped.snakeCase_eq`).  A text of this shape is its own snake case: it has
     no capital, so no word begins inside another, each underscore is written again, and there is
     nothing to take off.

  So snake case of snake case is snake case, for every text, and a text that has the shape is left
  alone wherever it came from.
-/
import Mathlib.Data.List.Chain
import ClientForge.Proofs.Naming.Letters

namespace ClientForge.Naming

open ClientForge.Text

/-- No two underscores stand side by side. -/
def Spaced (cs : List Char) : Prop := cs.IsChain fun a b => a = '_' → b ≠ '_'

/-- What snake case looks like: small letters, digits and single underscores, none at an end. -/
structure SnakeShaped (cs : List Char) : Prop where
  chars : ∀ c ∈ cs, isSnakeChar c = true
  spaced : Spaced cs
  first : cs.head? ≠ some '_'
  last : cs.getLast? ≠ some '_'

/-- A word of snake case. -/
structure SnakeWord (word : List Char) : Prop where
  nonempty : word ≠ []
  chars : ∀ c ∈ word, c.isLower = true ∨ c.isDigit = true

/-! ## Characters -/

/-- A letter or digit in lower case is no underscore. -/
theorem toLower_ne_underscore {c : Char} (h : c.isAlphanum = true) : c.toLower ≠ '_' := by
  intro heq
  have halnum := (isAlphanum_changedCase (toNat_lt_of_isAlphanum h)).2.1
  rw [heq, h] at halnum
  cases halnum

/-- Snake case has no capitals. -/
theorem isUpper_of_isSnakeChar {c : Char} (h : isSnakeChar c = true) : c.isUpper = false :=
  forall_ascii (p := fun c => isSnakeChar c = true → c.isUpper = false) (by decide)
    (toNat_lt_of_isIdentifierChar (isIdentifierChar_of_isSnakeChar h)) h

/-- All but the underscore is a small letter or a digit. -/
theorem isLower_or_isDigit_of_isSnakeChar {c : Char} (h : isSnakeChar c = true) (hne : c ≠ '_') :
    c.isLower = true ∨ c.isDigit = true := by
  rw [isSnakeChar, Bool.or_eq_true, Bool.or_eq_true, beq_iff_eq] at h
  exact h.resolve_right hne

/-! ## Trimming -/

/-- No underscore is left in front. -/
theorem head?_dropWhile_ne (cs : List Char) : (cs.dropWhile isUnderscore).head? ≠ some '_' := by
  intro hhead
  have hnot := List.head?_dropWhile_not isUnderscore cs
  rw [hhead] at hnot
  cases hnot

/-- No underscore is left at the end. -/
theorem getLast?_dropEndWhile_ne (cs : List Char) :
    (dropEndWhile isUnderscore cs).getLast? ≠ some '_' := by
  intro hlast
  cases getLast?_dropEndWhile hlast

/-- The beginning of a text that begins with no underscore does not either. -/
theorem head?_ne_of_isPrefix {cs ds : List Char} (h : cs <+: ds) (hds : ds.head? ≠ some '_') :
    cs.head? ≠ some '_' := by
  obtain ⟨rest, rfl⟩ := h
  cases cs with
  | nil => exact nofun
  | cons c cs => exact hds

/-- Where none is in front nothing is taken off. -/
theorem dropWhile_underscore_eq {cs : List Char} (h : cs.head? ≠ some '_') :
    cs.dropWhile isUnderscore = cs := by
  cases cs with
  | nil => rfl
  | cons c cs =>
    have hc : c ≠ '_' := fun heq => h (congrArg some heq)
    exact List.dropWhile_cons_of_neg (by simpa [isUnderscore] using hc)

/-- Where none is at the end nothing is taken off. -/
theorem dropEndWhile_underscore_eq {cs : List Char} (h : cs.getLast? ≠ some '_') :
    dropEndWhile isUnderscore cs = cs := by
  refine dropEndWhile_eq_self fun c hlast => ?_
  have hc : c ≠ '_' := fun heq => h (heq ▸ hlast)
  simpa [isUnderscore] using hc

/-! ## The shape of snake case -/

/-- A character is put behind the one written last unless both are underscores. -/
theorem spaced_last {last : Option Char} {c : Char} {cs : List Char}
    (hlast : c = '_' → last ≠ some '_') (h : Spaced (c :: cs)) :
    Spaced (last.toList ++ c :: cs) := by
  cases last with
  | none => exact h
  | some d => exact .cons_cons (fun hd hc => hlast hc (congrArg some hd)) h

/-- **No underscore is written behind another one,** the character written last included. -/
theorem spaced_snakeFrom (prev last : Option Char) (cs : List Char) :
    Spaced (last.toList ++ snakeFrom prev last cs) := by
  induction cs generalizing prev last with
  | nil => cases last with
    | none => exact .nil
    | some d => exact .singleton d
  | cons c rest ih =>
    unfold snakeFrom
    cases halnum : c.isAlphanum with
    | false =>
      rw [if_pos (by rfl)]
      split
      · exact ih _ _
      · rename_i hlast
        refine spaced_last (fun _ heq => ?_) (ih (some c) (some '_'))
        rw [heq] at hlast
        exact hlast rfl
    | true =>
      have hlower : c.toLower ≠ '_' := toLower_ne_underscore halnum
      have hhere : Spaced (c.toLower :: snakeFrom (some c) (some c.toLower) rest) :=
        ih (some c) (some c.toLower)
      rw [if_neg (by decide)]
      dsimp only
      split
      · -- a word begins, and what was written last is no underscore
        rename_i hbegins
        refine spaced_last (fun _ heq => ?_) (.cons_cons (fun _ => hlower) hhere)
        rw [heq, Bool.and_eq_true] at hbegins
        cases hbegins.2
      · exact spaced_last (fun hc => absurd hc hlower) hhere

/-- **What snake case writes has its shape.** -/
theorem snakeShaped_snakeCase (text : String) : SnakeShaped (snakeCase text).toList where
  chars := fun c hc => isSnakeChar_of_mem_snakeCase hc
  spaced := by
    rw [snakeCase, String.toList_ofList]
    have hmarked : Spaced (snakeFrom none none text.toList) := spaced_snakeFrom none none _
    exact List.IsChain.prefix (hmarked.suffix (List.dropWhile_suffix _)) (dropEndWhile_isPrefix _ _)
  first := by
    rw [snakeCase, String.toList_ofList]
    exact head?_ne_of_isPrefix (dropEndWhile_isPrefix _ _) (head?_dropWhile_ne _)
  last := by
    rw [snakeCase, String.toList_ofList]
    exact getLast?_dropEndWhile_ne _

namespace SnakeShaped

variable {cs : List Char}

/-- Where a text with single underscores is cut, only the first part can be empty: when there is
nothing in front of the first underscore, or nothing at all. -/
theorem split_nonempty (hspaced : Spaced cs) (hlast : cs.getLast? ≠ some '_') :
    ∃ first later, split '_' cs = first :: later ∧ (first = [] → cs = [] ∨ cs.head? = some '_') ∧
      ∀ word ∈ later, word ≠ [] := by
  induction cs with
  | nil => exact ⟨[], [], rfl, fun _ => Or.inl rfl, List.forall_mem_nil _⟩
  | cons c rest ih =>
    have hrest : rest.getLast? ≠ some '_' := by
      cases rest with
      | nil => simp
      | cons d rest => rwa [List.getLast?_cons_cons] at hlast
    obtain ⟨first, later, hsplit, hfirst, hlater⟩ := ih hspaced.tail hrest
    unfold split
    by_cases hc : c = '_'
    · -- the part behind the underscore is not empty, as neither the end nor another one follows
      rw [if_pos hc, hsplit]
      refine ⟨[], first :: later, rfl, fun _ => Or.inr (congrArg some hc), ?_⟩
      refine List.forall_mem_cons.2 ⟨fun hempty => ?_, hlater⟩
      rcases hfirst hempty with rfl | hhead
      · exact hlast (congrArg some hc)
      · cases rest with
        | nil => cases hhead
        | cons d rest =>
          have hadjacent : c = '_' → d ≠ '_' := (List.isChain_cons_cons.1 hspaced).1
          exact hadjacent hc (Option.some.inj hhead)
    · rw [if_neg hc, hsplit]
      exact ⟨c :: first, later, rfl, fun hempty => absurd hempty (List.cons_ne_nil c first), hlater⟩

/-- **A text of this shape is words joined by underscores.** -/
theorem exists_words (h : SnakeShaped cs) :
    ∃ words, (∀ word ∈ words, SnakeWord word) ∧ cs = join ['_'] words := by
  cases hcs : cs with
  | nil => exact ⟨[], nofun, rfl⟩
  | cons c rest =>
    obtain ⟨first, later, hsplit, hfirst, hlater⟩ := split_nonempty h.spaced h.last
    have hnonempty : ∀ word ∈ split '_' cs, word ≠ [] := by
      rw [hsplit]
      refine List.forall_mem_cons.2 ⟨fun hempty => ?_, hlater⟩
      rcases hfirst hempty with hnil | hhead
      · rw [hnil] at hcs
        cases hcs
      · exact h.first hhead
    refine ⟨split '_' cs, fun word hword => ⟨hnonempty word hword, fun d hd => ?_⟩, ?_⟩
    · obtain ⟨hmem, hne⟩ := mem_of_mem_split hword hd
      exact isLower_or_isDigit_of_isSnakeChar (h.chars d hmem) hne
    · rw [join_split, hcs]

/-- Characters of this shape are written again as they are. -/
theorem snakeFrom_eq (prev last : Option Char) (hchars : ∀ c ∈ cs, isSnakeChar c = true)
    (hspaced : Spaced (last.toList ++ cs)) : snakeFrom prev last cs = cs := by
  induction cs generalizing prev last with
  | nil => rfl
  | cons c rest ih =>
    obtain ⟨hc, hrest⟩ := List.forall_mem_cons.1 hchars
    have hnext : Spaced (c :: rest) := hspaced.suffix (List.suffix_append _ _)
    unfold snakeFrom
    by_cases hunderscore : c = '_'
    · subst hunderscore
      have hlast : last ≠ some '_' := by
        rintro rfl
        exact (List.isChain_cons_cons.1 hspaced).1 rfl rfl
      rw [if_pos (by decide), if_neg (by simpa using hlast), ih _ (some '_') hrest hnext]
    · obtain ⟨halnum, hlower⟩ := alphanum_of_isSnakeChar hc hunderscore
      rw [halnum, isUpper_of_isSnakeChar hc, hlower, ih _ (some c) hrest hnext]
      rfl

/-- **A text of this shape is its own snake case.** -/
theorem snakeCase_eq {text : String} (h : SnakeShaped text.toList) : snakeCase text = text := by
  rw [snakeCase, snakeFrom_eq none none h.chars h.spaced, dropWhile_underscore_eq h.first,
    dropEndWhile_underscore_eq h.last, String.ofList_toList]

end SnakeShaped

example : snakeCase "HTTPServer--IDs" = "http_server_ids" := by decide +kernel

end ClientForge.Naming
