/-
  Finding a line by what it begins with.

  Values of a document are put into the lines of static files, and a value may have line ends in it.
  Then the file has lines that nobody meant, and a reader that looks for the line with some beginning
  may find one inside of a value.

  Readers here take the LAST line that begins as wanted (`lastLine?`).  Where a text has one stretch
  that begins as wanted at the start of a line, and no line behind it begins so, that line is found in
  the stretch (`lastLine?_eq`).  It is the whole of the stretch if this is one line.  Otherwise it is
  less: either the first line of the stretch, which ends too early, or a line further inside, which
  begins too late; in both cases it is shorter, and that is all that is ever used of it.

  What stands in front of the stretch makes no difference, whatever values it has in it.
-/
import Mathlib.Data.List.Basic
import ClientForge.Proofs.Text.Parts

namespace ClientForge.Text

/-- What follows `start`, if the text begins with it. -/
def behind? (start cs : List Char) : Option (List Char) :=
  if start.isPrefixOf cs then some (cs.drop start.length) else none

/-- What follows `start` on the last line that begins with it. -/
def lastLine? (start cs : List Char) : Option (List Char) :=
  ((split '\n' cs).filterMap (behind? start)).getLast?

/-- A text begins as wanted if it is the beginning with something behind it. -/
theorem behind?_eq_some_iff {start cs rest : List Char} :
    behind? start cs = some rest ↔ cs = start ++ rest := by
  unfold behind?
  constructor
  · intro h
    split at h
    · rename_i hstart
      obtain ⟨found, rfl⟩ := List.isPrefixOf_iff_prefix.1 hstart
      rw [List.drop_left] at h
      rw [Option.some_inj.1 h]
    · cases h
  · rintro rfl
    rw [if_pos (List.isPrefixOf_iff_prefix.2 (List.prefix_append _ _)), List.drop_left]

/-- A part of a cut text is no longer than the text. -/
theorem length_le_of_mem_split {sep : Char} {cs part : List Char} (hpart : part ∈ split sep cs) :
    part.length ≤ cs.length := by
  rw [← join_split sep cs]
  generalize split sep cs = parts at hpart
  induction parts with
  | nil => cases hpart
  | cons first rest ih =>
    cases rest with
    | nil =>
      obtain rfl := List.mem_singleton.1 hpart
      exact Nat.le_refl _
    | cons next rest =>
      rw [join, List.length_append, List.length_append]
      rcases List.mem_cons.1 hpart with rfl | hpart
      · omega
      · have := ih hpart
        omega

/-- A part of a text that is cut at all is shorter than the text. -/
theorem length_lt_of_mem_split {sep : Char} {cs part : List Char} (hsep : sep ∈ cs)
    (hpart : part ∈ split sep cs) : part.length < cs.length := by
  obtain ⟨before, after, rfl⟩ := List.append_of_mem hsep
  rw [split_append_cons] at hpart
  rw [List.length_append, List.length_cons]
  rcases List.mem_append.1 hpart with hpart | hpart
  · have := length_le_of_mem_split hpart
    omega
  · have := length_le_of_mem_split hpart
    omega

/-- **The last line that begins as wanted.** -/
theorem lastLine?_eq {start rest after : List Char} (hstart : '\n' ∉ start)
    (hafter : (split '\n' after).filterMap (behind? start) = []) (before : List Char) :
    ∃ found, lastLine? start (before ++ '\n' :: (start ++ rest ++ '\n' :: after)) = some found ∧
      (('\n' ∉ rest ∧ found = rest) ∨ ('\n' ∈ rest ∧ found.length < rest.length)) := by
  have hlast : lastLine? start (before ++ '\n' :: (start ++ rest ++ '\n' :: after)) =
      ((split '\n' (start ++ rest)).filterMap (behind? start)).getLast?.or
        ((split '\n' before).filterMap (behind? start)).getLast? := by
    unfold lastLine?
    rw [split_append_cons, split_append_cons, List.filterMap_append, List.filterMap_append, hafter,
      List.append_nil, List.getLast?_append]
  rw [hlast]
  by_cases hrest : '\n' ∈ rest
  · -- the first line of the stretch begins so, hence one is found; any is shorter than the stretch
    cases hparts : split '\n' rest with
    | nil => exact absurd hparts (split_ne_nil '\n' rest)
    | cons first others =>
      have hfirst : behind? start (start ++ first) = some first := behind?_eq_some_iff.2 rfl
      have hmem : first ∈ (split '\n' (start ++ rest)).filterMap (behind? start) := by
        rw [split_append hstart hparts]
        exact List.mem_filterMap.2 ⟨_, List.mem_cons_self, hfirst⟩
      obtain ⟨found, hfound⟩ := Option.isSome_iff_exists.1
        (List.getLast?_isSome.2 (List.ne_nil_of_mem hmem))
      rw [hfound]
      refine ⟨found, rfl, Or.inr ⟨hrest, ?_⟩⟩
      obtain ⟨line, hline, hbehind⟩ := List.mem_filterMap.1 (List.mem_of_getLast? hfound)
      have hshort := length_lt_of_mem_split (List.mem_append_right _ hrest) hline
      rw [behind?_eq_some_iff.1 hbehind, List.length_append, List.length_append] at hshort
      omega
  · have hline : '\n' ∉ start ++ rest := fun hmem => (List.mem_append.1 hmem).elim hstart hrest
    refine ⟨rest, ?_, Or.inl ⟨hrest, rfl⟩⟩
    rw [split_of_not_mem hline, List.filterMap_cons_some (behind?_eq_some_iff.2 rfl)]
    rfl

end ClientForge.Text
