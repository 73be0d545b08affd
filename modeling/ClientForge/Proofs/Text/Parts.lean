/-
  Where a text is cut.

  Paths are cut at slashes, queries at ampersands, references behind their last slash, and names at
  underscores.  In each case something was put together with the separator in between, and what is
  wanted is that cutting gives the same parts again.

  * A part of a cut text has no separator in it (`mem_of_mem_split`).
  * Text without the separator belongs to the first part of the text that it stands in front of
    (`split_append`, `firstPart_append`), and to the last part of the one that it stands behind
    (`lastPart_append`).
  * A separator cuts: what is in front of it is cut by itself, and so is what is behind
    (`split_append_cons`).

  So what is put together from parts without the separator falls apart into them again.  Cutting at the
  first occurrence only is its own function (`cutAt?`), since what is behind it may have further
  separators.  The induction for last parts is on the length of the text: taking a part off leaves a
  shorter one, which is no tail of the row of characters that a structural induction would offer.
-/
import ClientForge.Text.Split

namespace ClientForge.Text

/-! ## All parts -/

/-- A part of a cut text holds characters of the text, the separator not among them. -/
theorem mem_of_mem_split {sep c : Char} {cs part : List Char} (hpart : part ∈ split sep cs)
    (hc : c ∈ part) : c ∈ cs ∧ c ≠ sep := by
  induction cs generalizing part with
  | nil =>
    obtain rfl := List.mem_singleton.1 hpart
    cases hc
  | cons first rest ih =>
    -- What holds of a part of the rest holds of it here, where the row is longer by one.
    have hrest : ∀ part ∈ split sep rest, c ∈ part → c ∈ first :: rest ∧ c ≠ sep :=
      fun part hpart hc => ⟨List.mem_cons_of_mem _ (ih hpart hc).1, (ih hpart hc).2⟩
    unfold split at hpart
    split at hpart
    · rcases List.mem_cons.1 hpart with rfl | hpart
      · cases hc
      · exact hrest part hpart hc
    · rename_i hsep
      -- The first character joins the first part; it is not the mark, or it would have ended it.
      cases hsplit : split sep rest with
      | nil => exact absurd hsplit (split_ne_nil sep rest)
      | cons word words =>
        rw [hsplit] at hpart hrest
        rcases List.mem_cons.1 hpart with rfl | hpart
        · rcases List.mem_cons.1 hc with rfl | hc
          · exact ⟨List.mem_cons_self, hsep⟩
          · exact hrest word List.mem_cons_self hc
        · exact hrest part (List.mem_cons_of_mem _ hpart) hc

/-- A separator cuts what is in front of it from what is behind. -/
theorem split_append_cons (sep : Char) (before after : List Char) :
    split sep (before ++ sep :: after) = split sep before ++ split sep after := by
  induction before with
  | nil => simp [split]
  | cons c before ih =>
    rw [List.cons_append, split, split, ih]
    split
    · rfl
    · cases hs : split sep before with
      | nil => exact absurd hs (split_ne_nil sep before)
      | cons word words => rfl

/-- Text without the separator belongs to the first part. -/
theorem split_append {sep : Char} {word cs first : List Char} {rest : List (List Char)}
    (hword : sep ∉ word) (h : split sep cs = first :: rest) :
    split sep (word ++ cs) = (word ++ first) :: rest := by
  induction word with
  | nil => exact h
  | cons c word ih =>
    obtain ⟨hc, hword⟩ := not_or.1 (fun hmem => hword (List.mem_cons.2 hmem))
    rw [List.cons_append, split, if_neg (Ne.symm hc), ih hword]
    rfl

/-- There is one part more than there are separators. -/
theorem length_split (sep : Char) (cs : List Char) :
    (split sep cs).length = cs.count sep + 1 := by
  induction cs with
  | nil => rfl
  | cons c cs ih =>
    rw [split, List.count_cons]
    by_cases hc : c = sep
    · rw [if_pos hc, List.length_cons, ih, if_pos (beq_iff_eq.2 hc)]
    · rw [if_neg hc, if_neg (by simpa using hc), Nat.add_zero, ← ih]
      cases hs : split sep cs with
      | nil => exact absurd hs (split_ne_nil sep cs)
      | cons word words => rfl

/-! ## The ends -/

/-- Text without the separator stands in the first part. -/
theorem firstPart_append {sep : Char} {word : List Char} (hword : sep ∉ word) (cs : List Char) :
    firstPart sep (word ++ cs) = word ++ firstPart sep cs := by
  apply List.takeWhile_append_of_pos
  intro c hmem
  rw [bne_iff_ne]
  rintro rfl
  exact hword hmem

/-- Without a separator the first part is the whole. -/
theorem firstPart_of_not_mem {sep : Char} {cs : List Char} (h : sep ∉ cs) :
    firstPart sep cs = cs := by
  have hall : firstPart sep (cs ++ []) = cs ++ [] := firstPart_append h []
  rwa [List.append_nil] at hall

/-- What stands behind the separator does not. -/
theorem firstPart_append_of_mem {sep : Char} {word : List Char} (hword : sep ∈ word)
    (cs : List Char) : firstPart sep (word ++ cs) = firstPart sep word := by
  induction word with
  | nil => cases hword
  | cons c word ih =>
    by_cases hc : c = sep
    · simp [firstPart, hc]
    · have hrest := ih ((List.mem_cons.1 hword).resolve_left (Ne.symm hc))
      unfold firstPart at hrest ⊢
      rw [List.cons_append, List.takeWhile_cons_of_pos (by simpa using hc),
        List.takeWhile_cons_of_pos (by simpa using hc), hrest]

/-- Without a separator the text is its only part. -/
theorem split_of_not_mem {sep : Char} {cs : List Char} (h : sep ∉ cs) : split sep cs = [cs] := by
  have hsplit : split sep (cs ++ []) = [cs ++ []] := split_append h rfl
  rwa [List.append_nil] at hsplit

/-- And it is the last part. -/
theorem lastPart_of_not_mem {sep : Char} {cs : List Char} (h : sep ∉ cs) :
    lastPart sep cs = cs := by
  simp only [lastPart, split_of_not_mem h, List.getLast_singleton]

/-- What stands in front of a separator does not stand in the last part. -/
theorem lastPart_append_cons (sep : Char) (before after : List Char) :
    lastPart sep (before ++ sep :: after) = lastPart sep after := by
  simp only [lastPart, split_append_cons, List.getLast_append_of_ne_nil _ (split_ne_nil sep after)]

/-- The last part has characters of the text. -/
theorem mem_of_mem_lastPart {sep c : Char} {cs : List Char} (h : c ∈ lastPart sep cs) : c ∈ cs :=
  (mem_of_mem_split (List.getLast_mem (split_ne_nil sep cs)) h).1

/-- Text without the separator stands in the last part. -/
theorem lastPart_append {sep : Char} {word : List Char} (hword : sep ∉ word) (cs : List Char) :
    lastPart sep (cs ++ word) = lastPart sep cs ++ word := by
  by_cases hmem : sep ∈ cs
  · -- what stands in front of a separator is cut off, so a shorter text is left
    obtain ⟨before, after, rfl⟩ := List.append_of_mem hmem
    rw [List.append_assoc, List.cons_append, lastPart_append_cons, lastPart_append_cons,
      lastPart_append hword after]
  · have hnone : sep ∉ cs ++ word := fun h => (List.mem_append.1 h).elim hmem hword
    rw [lastPart_of_not_mem hmem, lastPart_of_not_mem hnone]
termination_by cs.length
decreasing_by
  subst cs
  simp only [List.length_append, List.length_cons]
  omega

/-! ## The first cut -/

/-- The texts before and behind the first occurrence of `sep`, if there is one. -/
def cutAt? (sep : Char) : List Char → Option (List Char × List Char)
  | [] => none
  | c :: cs =>
    if c = sep then some ([], cs)
    else (cutAt? sep cs).map fun (before, after) => (c :: before, after)

/-- Without a separator there is nothing to cut. -/
theorem cutAt?_of_not_mem {sep : Char} {cs : List Char} (h : sep ∉ cs) : cutAt? sep cs = none := by
  induction cs with
  | nil => rfl
  | cons c cs ih =>
    obtain ⟨hc, hcs⟩ := not_or.1 (fun hmem => h (List.mem_cons.2 hmem))
    rw [cutAt?, if_neg (Ne.symm hc), ih hcs]
    rfl

/-- The first separator is where the text is cut. -/
theorem cutAt?_append_cons {sep : Char} {before : List Char} (hbefore : sep ∉ before)
    (after : List Char) : cutAt? sep (before ++ sep :: after) = some (before, after) := by
  induction before with
  | nil => rw [List.nil_append, cutAt?, if_pos rfl]
  | cons c before ih =>
    obtain ⟨hc, hrest⟩ := not_or.1 (fun hmem => hbefore (List.mem_cons.2 hmem))
    rw [List.cons_append, cutAt?, if_neg (Ne.symm hc), ih hrest]
    rfl

/-- What is left after taking off the end is the beginning. -/
theorem dropEndWhile_isPrefix (p : Char → Bool) (cs : List Char) : dropEndWhile p cs <+: cs := by
  have hsuffix := List.dropWhile_suffix p (l := cs.reverse)
  rwa [← List.reverse_prefix, List.reverse_reverse] at hsuffix

/-- All that was to be taken off is off. -/
theorem getLast?_dropEndWhile {p : Char → Bool} {cs : List Char} {c : Char}
    (hlast : (dropEndWhile p cs).getLast? = some c) : p c = false := by
  rw [dropEndWhile, List.getLast?_reverse] at hlast
  have hnot := List.head?_dropWhile_not p cs.reverse
  rwa [hlast] at hnot

/-- Where nothing is to be taken off the text stays. -/
theorem dropEndWhile_eq_self {p : Char → Bool} {cs : List Char}
    (h : ∀ c, cs.getLast? = some c → p c = false) : dropEndWhile p cs = cs := by
  have hself : cs.reverse.dropWhile p = cs.reverse := by
    rw [← List.head?_reverse] at h
    cases hcs : cs.reverse with
    | nil => rfl
    | cons c rest =>
      rw [hcs] at h
      exact List.dropWhile_cons_of_neg (by simp [h c rfl])
  rw [dropEndWhile, hself, List.reverse_reverse]

end ClientForge.Text
