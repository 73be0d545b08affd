/-
  Paths of names below a directory.

  A path is a text, and what it leads to is told by its parts: the root, the directory itself, the one
  above, or a name.  Two questions come up with a set of files that is written below a directory.

  1. **Where does a file go?**  A path that is made of names only (`Path.Plain`) leads below any
     directory: put behind the path of the directory it adds its names to the parts of that path,
     whatever slashes stand between (`Path.parts_joined`).  The directory may be given with a slash at
     its end or without one, and as the empty path, which has no parts; the three are different texts
     and need different arguments, but the parts come out the same.

  2. **Is there one file for each path?**  Files are kept in the order of their paths, and that order
     compares parts, not texts: first the kinds of parts, then the names (`PathPart.before_iff`).  It
     is irreflexive, transitive and total on parts, one part and then on rows of them, so a set of
     files that was put together one by one is strictly increasing (`FileSet.ordered_ofList`) and has
     every path once (`FileSet.Ordered.distinct`).

  With an order on texts the second would be false: `a/b` and `a//b` are different texts with the same
  parts, and as files they are one.
-/
import Mathlib.Data.List.Basic
import ClientForge.Files.FileSet
import ClientForge.Proofs.Text.Parts

namespace ClientForge

open ClientForge.Text

/-! ## Parts of a path -/

/-- Whether the part is a name. -/
def PathPart.isName : PathPart → Bool
  | name _ => true
  | _ => false

/-- A row of parts that are names, by their texts. -/
theorem PathPart.exists_names {parts : List PathPart} (h : ∀ part ∈ parts, part.isName = true) :
    ∃ names : List String, parts = names.map .name := by
  induction parts with
  | nil => exact ⟨[], rfl⟩
  | cons part rest ih =>
    obtain ⟨names, rfl⟩ := ih fun other hmem => h other (List.mem_cons_of_mem _ hmem)
    have hpart := h part List.mem_cons_self
    cases part with
    | name text => exact ⟨text :: names, rfl⟩
    | _ => cases hpart

namespace Path

/-- The path is relative and made of names only. -/
def Plain (path : String) : Prop := ∀ part ∈ parts path, part.isName = true

/-- Whether a path is made of names only can be computed. -/
instance (path : String) : Decidable (Plain path) :=
  inferInstanceAs (Decidable (∀ part ∈ parts path, part.isName = true))

/-- The parts of a path, by what stands between its slashes. Only the first piece can be the root,
and it is if it is empty and something follows. -/
theorem parts_eq {path : String} {first : List Char} {rest : List (List Char)}
    (h : split '/' path.toList = first :: rest) :
    parts path = (if first.isEmpty && !rest.isEmpty then [.root] else (part? true first).toList) ++
      rest.filterMap (part? false) := by
  rw [parts, h]

/-- The parts of a path of names are what stands between its slashes. -/
theorem parts_of_plain {path : String} (h : Plain path) :
    parts path = (split '/' path.toList).filterMap (part? false) := by
  cases hs : split '/' path.toList with
  | nil => exact absurd hs (split_ne_nil '/' path.toList)
  | cons first rest =>
    have hparts := parts_eq hs
    rw [Plain, hparts] at h
    rw [hparts]
    split at h
    · exact absurd (h .root List.mem_cons_self) (by decide)
    · rename_i hroot
      rw [if_neg hroot, List.filterMap_cons]
      by_cases hdot : first = ['.']
      · subst hdot
        exact absurd (h .here List.mem_cons_self) (by decide)
      · have hfirst : part? true first = part? false first := by simp [part?, hdot]
        rw [hfirst]
        cases part? false first <;> rfl

/-- A path of names does not begin with a slash. -/
theorem head?_of_plain {path : String} (h : Plain path) : path.toList.head? ≠ some '/' := by
  intro hhead
  obtain ⟨rest, hrest⟩ := List.head?_eq_some_iff.1 hhead
  have hs : split '/' path.toList = [] :: split '/' rest := by rw [hrest, split, if_pos rfl]
  have hparts := parts_eq hs
  rw [if_pos (by simp [split_ne_nil])] at hparts
  exact absurd (h .root (hparts ▸ List.mem_cons_self)) (by decide)

/-- **A path of names adds its parts** to those of the directory it is put below. -/
theorem parts_joined (base : String) {path : String} (h : Plain path) :
    parts (joined base path) = parts base ++ parts path := by
  have hplain := parts_of_plain h
  have hrooted (rest : List (List Char)) : (rest ++ split '/' path.toList).isEmpty = false := by
    simp [split_ne_nil]
  rw [joined, if_neg (by simpa using head?_of_plain h)]
  split
  · -- the empty path has no parts
    rename_i hempty
    have hnil : base = "" := String.isEmpty_iff.1 hempty
    rw [hnil]
    rfl
  · rename_i hempty
    split
    · -- the slash at the end of the directory is the one between
      rename_i hlast
      obtain ⟨before, hbefore⟩ := List.getLast?_eq_some_iff.1 (beq_iff_eq.1 hlast)
      have hbase : split '/' base.toList = split '/' before ++ [[]] := by
        rw [hbefore, split_append_cons]
        rfl
      have hboth : split '/' (base ++ path).toList = split '/' before ++ split '/' path.toList := by
        rw [String.toList_append, hbefore, List.append_assoc, List.singleton_append,
          split_append_cons]
      cases hs : split '/' before with
      | nil => exact absurd hs (split_ne_nil '/' before)
      | cons first rest =>
        rw [hs, List.cons_append] at hbase hboth
        have hnone : [[]].filterMap (part? false) = [] := rfl
        rw [parts_eq hbase, parts_eq hboth, hrooted, hplain, List.filterMap_append,
          List.filterMap_append, hnone, List.append_nil, List.append_assoc]
        simp
    · have hboth : split '/' (base ++ "/" ++ path).toList =
          split '/' base.toList ++ split '/' path.toList := by
        rw [String.toList_append, String.toList_append, List.append_assoc, ← split_append_cons]
        rfl
      cases hs : split '/' base.toList with
      | nil => exact absurd hs (split_ne_nil '/' base.toList)
      | cons first rest =>
        -- what begins with a slash has something behind it, since it is not empty
        have hroot : (first.isEmpty && !rest.isEmpty) = first.isEmpty := by
          cases first with
          | cons c first => rfl
          | nil => cases rest with
            | cons next rest => rfl
            | nil =>
              have hjoin := join_split '/' base.toList
              rw [hs] at hjoin
              exact absurd (String.isEmpty_iff.2 (String.toList_eq_nil_iff.1 hjoin.symm)) hempty
        rw [hs, List.cons_append] at hboth
        rw [parts_eq hs, parts_eq hboth, hrooted, hplain, List.filterMap_append,
          ← List.append_assoc, hroot]
        simp

end Path

/-! ## The order of paths -/

namespace PathPart

variable {a b c : PathPart}

/-- Parts are ordered by kind, and names among themselves by their text. -/
theorem before_iff : a.before b = true ↔
    a.rank < b.rank ∨ ∃ text other, a = .name text ∧ b = .name other ∧ text < other := by
  cases a with
  | name text => cases b with
    | name other =>
      constructor
      · exact fun h => Or.inr ⟨text, other, rfl, rfl, of_decide_eq_true h⟩
      · rintro (hrank | ⟨_, _, ⟨⟩, ⟨⟩, hlt⟩)
        · exact absurd hrank (Nat.lt_irrefl _)
        · exact decide_eq_true hlt
    | _ => simp [before]
  | _ => simp [before]

/-- No part is before itself. -/
theorem before_irrefl (a : PathPart) : a.before a = false := by
  rw [← Bool.not_eq_true, before_iff]
  rintro (hrank | ⟨text, other, rfl, hname, hlt⟩)
  · exact Nat.lt_irrefl _ hrank
  · cases hname
    exact String.lt_irrefl _ hlt

/-- The order of parts is transitive. -/
theorem before_trans (h : a.before b = true) (h' : b.before c = true) : a.before c = true := by
  rw [before_iff] at *
  rcases h with hrank | ⟨text, other, rfl, rfl, hlt⟩
  · rcases h' with hrank' | ⟨_, _, rfl, rfl, -⟩
    · exact Or.inl (Nat.lt_trans hrank hrank')
    · exact Or.inl hrank
  · rcases h' with hrank' | ⟨_, last, hname, rfl, hlt'⟩
    · exact Or.inl hrank'
    · cases hname
      exact Or.inr ⟨text, last, rfl, rfl, String.lt_trans hlt hlt'⟩

/-- Of two different parts one is before the other. -/
theorem before_total (hne : a ≠ b) (h : a.before b = false) : b.before a = true := by
  rw [← Bool.not_eq_true, before_iff, not_or] at h
  rw [before_iff]
  rcases Nat.lt_or_eq_of_le (Nat.le_of_not_lt h.1) with hrank | hrank
  · exact Or.inl hrank
  · -- two parts of one kind that are not the same are names
    obtain ⟨text, other, rfl, rfl⟩ : ∃ text other, a = .name text ∧ b = .name other := by
      cases a <;> cases b <;> simp_all [rank]
    have hle : ¬ text < other := fun hlt => h.2 ⟨text, other, rfl, rfl, hlt⟩
    exact Or.inr ⟨other, text, rfl, rfl, Std.lt_of_le_of_ne (String.not_lt.1 hle)
      fun heq => hne (heq ▸ rfl)⟩

end PathPart

namespace Path

/-- No row of parts is before itself. -/
theorem partsBefore_irrefl (as : List PathPart) : partsBefore as as = false := by
  induction as with
  | nil => rfl
  | cons a as ih => rw [partsBefore, if_pos rfl, ih]

/-- The order of rows is transitive: the first place where the rows differ decides. -/
theorem partsBefore_trans {as bs cs : List PathPart} (h : partsBefore as bs = true)
    (h' : partsBefore bs cs = true) : partsBefore as cs = true := by
  -- Three rows are walked at once; the two empty cases are refused by the hypotheses.
  induction as generalizing bs cs with
  | nil => cases bs with
    | nil => cases h
    | cons b bs => cases cs with
      | nil => cases h'
      | cons c cs => rfl
  | cons a as ih => cases bs with
    | nil => cases h
    | cons b bs => cases cs with
      | nil => cases h'
      | cons c cs =>
        rw [partsBefore] at h h' ⊢
        -- Where the first parts agree the rest decides, so the two places at which they may part
        -- are told apart before the induction is used.
        by_cases hab : a = b
        · subst hab
          rw [if_pos rfl] at h
          by_cases hac : a = c
          · rw [if_pos hac] at h' ⊢
            exact ih h h'
          · rw [if_neg hac] at h' ⊢
            exact h'
        · rw [if_neg hab] at h
          by_cases hbc : b = c
          · subst hbc
            rw [if_neg hab]
            exact h
          · rw [if_neg hbc] at h'
            -- Both pairs part here, and the order of the parts is transitive and irreflexive.
            have hac := PathPart.before_trans h h'
            have hne : a ≠ c := by
              rintro rfl
              rw [PathPart.before_irrefl] at hac
              cases hac
            rw [if_neg hne]
            exact hac

/-- Of two different rows one is before the other. -/
theorem partsBefore_total {as bs : List PathPart} (hne : as ≠ bs)
    (h : partsBefore as bs = false) : partsBefore bs as = true := by
  induction as generalizing bs with
  | nil => cases bs with
    | nil => exact absurd rfl hne
    | cons b bs => cases h
  | cons a as ih => cases bs with
    | nil => rfl
    | cons b bs =>
      rw [partsBefore] at h ⊢
      by_cases hab : a = b
      · subst hab
        rw [if_pos rfl] at h ⊢
        exact ih (fun heq => hne (by rw [heq])) h
      · rw [if_neg hab] at h
        rw [if_neg (Ne.symm hab)]
        exact PathPart.before_total hab h

end Path

namespace FileSet

variable {files : FileSet} {path text : String} {entries : List (String × String)}

/-- The paths of the files are in strictly increasing order. -/
def Ordered (files : FileSet) : Prop :=
  files.entries.Pairwise fun first second => Path.before first.1 second.1 = true

/-- An entry of the new row has the new path, or one that was there. -/
theorem mem_insertList {entry : String × String} (h : entry ∈ insertList path text entries) :
    Path.parts entry.1 = Path.parts path ∨ ∃ old ∈ entries, old.1 = entry.1 := by
  induction entries with
  | nil =>
    rw [List.mem_singleton.1 h]
    exact Or.inl rfl
  | cons other rest ih =>
    have hrest {found : String × String} (hmem : found ∈ rest) :
        ∃ old ∈ other :: rest, old.1 = found.1 := ⟨found, List.mem_cons_of_mem _ hmem, rfl⟩
    rw [insertList] at h
    split at h
    · rcases List.mem_cons.1 h with rfl | h
      · exact Or.inl rfl
      · exact Or.inr ⟨entry, h, rfl⟩
    · split at h
      · rcases List.mem_cons.1 h with rfl | h
        · exact Or.inr ⟨other, List.mem_cons_self, rfl⟩
        · exact Or.inr (hrest h)
      · rcases List.mem_cons.1 h with rfl | h
        · exact Or.inr ⟨_, List.mem_cons_self, rfl⟩
        · rcases ih h with heq | ⟨old, hold, heq⟩
          · exact Or.inl heq
          · exact Or.inr ⟨old, List.mem_cons_of_mem _ hold, heq⟩

/-- **A file more keeps the order.** -/
theorem ordered_insert (h : files.Ordered) (path text : String) :
    (files.insert path text).Ordered := by
  obtain ⟨entries⟩ := files
  unfold Ordered insert at *
  dsimp only at *
  induction entries with
  | nil => exact List.pairwise_singleton ..
  | cons other rest ih =>
    obtain ⟨hother, hrest⟩ := List.pairwise_cons.1 h
    rw [insertList]
    split
    · rename_i hbefore
      refine List.pairwise_cons.2 ⟨fun entry hmem => ?_, h⟩
      rcases List.mem_cons.1 hmem with rfl | hmem
      · exact hbefore
      · exact Path.partsBefore_trans hbefore (hother entry hmem)
    · rename_i hbefore
      split
      · exact List.pairwise_cons.2 ⟨hother, hrest⟩
      · rename_i hsame
        refine List.pairwise_cons.2 ⟨fun entry hmem => ?_, ih hrest⟩
        rcases mem_insertList hmem with heq | ⟨old, hold, heq⟩
        · have hne : Path.parts path ≠ Path.parts other.1 :=
            fun hparts => hsame (by simp [Path.same, hparts])
          -- neither before nor the same, so it is behind
          have hafter := Path.partsBefore_total hne (Bool.eq_false_iff.2 hbefore)
          rw [Path.before, heq]
          exact hafter
        · rw [← heq]
          exact hother old hold

/-- Any number of files more keep the order. -/
theorem ordered_insertAll (h : files.Ordered) (new : List (String × String)) :
    (files.insertAll new).Ordered := by
  induction new generalizing files with
  | nil => exact h
  | cons entry rest ih => exact ih (ordered_insert h entry.1 entry.2)

/-- **The files of a list are in order,** each path once. -/
theorem ordered_ofList (entries : List (String × String)) : (ofList entries).Ordered :=
  ordered_insertAll .nil entries

/-- No two files have the same path. -/
theorem Ordered.distinct (h : files.Ordered) :
    files.entries.Pairwise fun first second => Path.parts first.1 ≠ Path.parts second.1 := by
  refine h.imp fun hbefore heq => ?_
  rw [Path.before, heq, Path.partsBefore_irrefl] at hbefore
  cases hbefore

/-- **What a file more does:** its path gives its text, and every other path what it gave before. -/
theorem get?_insert (files : FileSet) (path text other : String) :
    (files.insert path text).get? other =
      if Path.same other path then some text else files.get? other := by
  obtain ⟨entries⟩ := files
  unfold insert get?
  dsimp only
  induction entries with
  | nil => by_cases hsame : Path.same other path = true <;> simp [insertList, hsame]
  | cons entry rest ih =>
    obtain ⟨first, old⟩ := entry
    rw [insertList]
    split
    · by_cases hsame : Path.same other path = true <;> simp [hsame]
    · split
      · rename_i hpath
        -- the new text stands under the old spelling, which is the same path
        have hspelling : Path.same other first = Path.same other path := by
          rw [Path.same, Path.same, of_decide_eq_true hpath]
        by_cases hsame : Path.same other path = true <;> simp [hspelling, hsame]
      · rename_i hpath
        rw [List.find?_cons, List.find?_cons]
        by_cases hfirst : Path.same other first = true
        · have hsame : Path.same other path ≠ true := by
            intro hsame
            apply hpath
            have hparts := (of_decide_eq_true hsame).symm.trans (of_decide_eq_true hfirst)
            exact decide_eq_true hparts
          simp [hfirst, hsame]
        · simp only [hfirst]
          exact ih

/-- **Files of different paths are all there** after they are added. -/
theorem get?_insertAll {new : List (String × String)}
    (hdistinct : (new.map Prod.fst).Pairwise fun first second => Path.same first second = false)
    (hmem : (path, text) ∈ new) : (files.insertAll new).get? path = some text := by
  -- A later entry of another path leaves what is found: this is where distinct paths are needed.
  have hkept : ∀ {rest : List (String × String)} {files : FileSet},
      (∀ entry ∈ rest, Path.same path entry.1 = false) →
        (files.insertAll rest).get? path = files.get? path := by
    intro rest
    induction rest with
    | nil => exact fun _ => rfl
    | cons entry rest ih =>
      intro files hother
      obtain ⟨hentry, hrest⟩ := List.forall_mem_cons.1 hother
      unfold insertAll at ih ⊢
      rw [List.foldl_cons, ih hrest, get?_insert, hentry]
      rfl
  induction new generalizing files with
  | nil => cases hmem
  | cons entry rest ih =>
    obtain ⟨hentry, hrest⟩ := List.pairwise_cons.1 hdistinct
    rcases List.mem_cons.1 hmem with rfl | hmem
    · have hother : ∀ entry ∈ rest, Path.same path entry.1 = false := fun entry hentry' =>
        hentry entry.1 (List.mem_map_of_mem hentry')
      have hself : Path.same path path = true := decide_eq_true rfl
      have hinsert := get?_insert files path text path
      rw [if_pos hself] at hinsert
      exact (hkept hother).trans hinsert
    · exact ih hrest hmem

end FileSet

end ClientForge
