/-
  What writing does to the places of a tree.

  A tree of directories and files is told by what stands at each place: a file with its octets, a
  directory, or nothing (`look`).  A place is a row of names from the top.

  The one fact about a tree that everything here rests on is `look_put`: put a file, or an empty
  directory, at a place where there was no directory, and that place is the only one at which the tree
  has changed.  That there was no directory is needed, for with a directory everything inside it would
  go too; and it is the one thing the writing of files makes sure of.

  What an operation does is told by an `Effect`: the files it wrote, the directories it made, and that
  every other place is as it was.  An effect also says what it did NOT do — no file has taken the place
  of a directory, and no directory that of a file.  Without these two clauses effects could not be put
  one behind the other (`Effect.trans`), because a later step could undo what an earlier one did; with
  them a file written stays written until it is written again.

  The steps are the making of a directory and the writing of a file.  A way — the directories on the
  path to a file — is made step by step, from the top, and ends where a file stands in it (`passed`,
  `effect_makeWay`).
-/
import ClientForge.Files.FileTree

namespace ClientForge

/-- What stands at a place: a file with its octets, or a directory, whatever is in it. -/
inductive Standing where
  | file (content : List UInt8)
  | directory
deriving DecidableEq, Repr

namespace FileTree

/-- What a tree is, apart from what is in it. -/
def standing : FileTree → Standing
  | file content => .file content
  | directory _ => .directory

/-- What stands at a place, if anything does. -/
def look (tree : FileTree) (place : List String) : Option Standing := (tree.get? place).map standing

variable {tree before after : FileTree} {here place : List String}

/-! ## Looking -/

/-- The test for a directory looks at the place. -/
theorem isDirectory_iff : tree.isDirectory place = true ↔ tree.look place = some .directory := by
  unfold isDirectory look
  cases tree.get? place with
  | none => simp
  | some found => cases found <;> simp [standing]

/-- A file is seen at a place if it is there. -/
theorem look_eq_file_iff {content : List UInt8} :
    tree.look place = some (.file content) ↔ tree.get? place = some (.file content) := by
  unfold look
  cases tree.get? place with
  | none => simp
  | some found => cases found <;> simp [standing]

/-- The way to a place can be broken anywhere. -/
theorem get?_append (tree : FileTree) (place more : List String) :
    tree.get? (place ++ more) = (tree.get? place).bind fun found => found.get? more := by
  induction place generalizing tree with
  | nil => simp [get?]
  | cons name place ih => cases tree with
    | file content => rfl
    | directory entries =>
      rw [List.cons_append, get?, get?, Option.bind_assoc]
      exact congrArg _ (funext ih)

/-- **What is on the way to something is a directory.** -/
theorem look_of_append {name : String} {more : List String} {found : Standing}
    (h : tree.look (place ++ name :: more) = some found) : tree.look place = some .directory := by
  rw [look, get?_append] at h
  rw [look]
  cases hplace : tree.get? place with
  | none =>
    rw [hplace] at h
    cases h
  | some inner => cases inner with
    | file content =>
      rw [hplace] at h
      cases h
    | directory entries => rfl

/-- What leads nowhere else: a file, or a directory with nothing in it. -/
def IsLeaf (new : FileTree) : Prop := ∀ name place, new.get? (name :: place) = none

/-- A file leads nowhere else. -/
theorem isLeaf_file (content : List UInt8) : (file content).IsLeaf := fun _ _ => rfl

/-- Neither does an empty directory. -/
theorem isLeaf_empty : empty.IsLeaf := fun _ _ => rfl

/-- **What is put at a place stands there, and everything else is as it was,** if the place was no
directory. -/
theorem look_put {new result : FileTree} (hleaf : new.IsLeaf)
    (hfree : tree.look place ≠ some .directory) (h : put new place tree = some result)
    (other : List String) :
    result.look other = if other = place then some new.standing else tree.look other := by
  -- below the place there was nothing, and there still is nothing
  have hbelow (child : FileTree) (hchild : child.look [] ≠ some .directory) (next : String)
      (rest : List String) : child.look (next :: rest) = none := by
    cases child with
    | file content => rfl
    | directory entries => exact absurd rfl hchild
  have hnew (next : String) (rest : List String) : new.look (next :: rest) = none := by
    rw [look, hleaf, Option.map_none]
  -- along the place; the one step in which something changes is the last (`case1`, `case3`)
  fun_induction put new place tree generalizing result other with
  | case1 tree =>
    cases h
    cases other with
    | nil => rfl
    | cons next rest => rw [hnew, if_neg (List.cons_ne_nil next rest), hbelow tree hfree]
  | case2 => cases h
  | case3 name entries =>
    cases h
    cases other with
    | nil => rfl
    | cons next rest =>
      simp only [look, get?, lookup_replace] at hfree ⊢
      by_cases hnext : next = name
      · subst hnext
        rw [if_pos rfl, Option.bind_some]
        cases rest with
        | nil => rw [if_pos rfl]; rfl
        | cons more rest =>
          rw [if_neg (by simp), hleaf, Option.map_none]
          cases hlookup : lookup next entries with
          | none => rfl
          | some child =>
            rw [hlookup, Option.bind_some] at hfree
            exact (hbelow child hfree more rest).symm
      · rw [if_neg hnext, if_neg (fun heq => hnext (List.cons.inj heq).1)]
  | case4 name next place entries ih =>
    obtain ⟨child, hchild, h⟩ := Option.bind_eq_some_iff.1 h
    obtain ⟨changed, hchanged, rfl⟩ := Option.map_eq_some_iff.1 h
    have hfreeChild : child.look (next :: place) ≠ some .directory := by
      rwa [look, get?, hchild, Option.bind_some] at hfree
    cases other with
    | nil => rfl
    | cons first rest =>
      have hrest := ih child hfreeChild hchanged rest
      simp only [look, get?, lookup_replace] at hrest ⊢
      by_cases hfirst : first = name
      · subst hfirst
        rw [if_pos rfl, Option.bind_some, hrest, hchild, Option.bind_some]
        simp only [List.cons.injEq, true_and]
      · rw [if_neg hfirst, if_neg (fun heq => hfirst (List.cons.inj heq).1)]

/-- Something can be put into a directory. -/
theorem exists_put (new : FileTree) (name : String) (h : tree.look here = some .directory) :
    ∃ result, put new (here ++ [name]) tree = some result := by
  induction here generalizing tree with
  | nil => cases tree with
    | file content => cases h
    | directory entries => exact ⟨_, rfl⟩
  | cons first rest ih => cases tree with
    | file content => cases h
    | directory entries =>
      simp only [look, get?] at h
      cases hlookup : lookup first entries with
      | none =>
        rw [hlookup] at h
        cases h
      | some child =>
        rw [hlookup, Option.bind_some] at h
        obtain ⟨changed, hchanged⟩ := ih h
        refine ⟨directory (replace first changed entries), ?_⟩
        -- the row of names behind the first one is not empty
        cases hrow : rest ++ [name] with
        | nil => simp at hrow
        | cons next place =>
          rw [hrow] at hchanged
          rw [List.cons_append, hrow, put, hlookup, Option.bind_some, hchanged, Option.map_some]

/-- An entry that is replaced by itself changes nothing. -/
theorem replace_eq_self {name : String} {new : FileTree} {entries : List (String × FileTree)}
    (h : lookup name entries = some new) : replace name new entries = entries := by
  induction entries with
  | nil => cases h
  | cons entry rest ih =>
    obtain ⟨other, found⟩ := entry
    rw [lookup] at h
    rw [replace]
    split
    · rename_i heq
      rw [if_pos heq] at h
      cases h
      rw [heq]
    · rename_i hne
      rw [if_neg hne] at h
      rw [ih h]

/-- What is there already can be put there without a change. -/
theorem put_eq_self {new : FileTree} (h : tree.get? place = some new) :
    put new place tree = some tree := by
  fun_induction put new place tree with
  | case1 tree =>
    cases h
    rfl
  | case2 => cases h
  | case3 name entries =>
    rw [get?] at h
    obtain ⟨child, hchild, h⟩ := Option.bind_eq_some_iff.1 h
    cases h
    rw [replace_eq_self hchild]
  | case4 name next place entries ih =>
    rw [get?] at h
    obtain ⟨child, hchild, h⟩ := Option.bind_eq_some_iff.1 h
    rw [hchild, Option.bind_some, ih child h, Option.map_some, replace_eq_self hchild]

/-! ## Effects -/

/-- `Effect before after files made` — the tree afterwards has these files and directories, and is
the one before at every other place.  No file has taken the place of a directory, and no directory
that of a file. -/
structure Effect (before after : FileTree) (files : List (List String × List UInt8))
    (made : List (List String)) : Prop where
  file : ∀ place content, (place, content) ∈ files → after.look place = some (.file content)
  directory : ∀ place ∈ made, after.look place = some .directory
  kept : ∀ place, place ∉ files.map Prod.fst → place ∉ made → after.look place = before.look place
  noDirectory : ∀ place ∈ files.map Prod.fst, before.look place ≠ some .directory
  noFile : ∀ place ∈ made, ∀ content, before.look place ≠ some (.file content)

namespace Effect

variable {files more : List (List String × List UInt8)} {made moreMade : List (List String)}

/-- Nothing done has no effect. -/
theorem refl (tree : FileTree) : Effect tree tree [] [] where
  file := nofun
  directory := nofun
  kept := fun _ _ _ => rfl
  noDirectory := nofun
  noFile := nofun

/-- A file that was written is there, with some octets. -/
theorem file_of_mem (h : Effect before after files made) (hplace : place ∈ files.map Prod.fst) :
    ∃ content, after.look place = some (.file content) := by
  obtain ⟨⟨_, content⟩, hmem, rfl⟩ := List.mem_map.1 hplace
  exact ⟨content, h.file _ _ hmem⟩

/-- **Effects follow one another,** if no file is written twice. -/
theorem trans {between : FileTree} (h : Effect before between files made)
    (h' : Effect between after more moreMade)
    (honce : ∀ place ∈ files.map Prod.fst, place ∉ more.map Prod.fst) :
    Effect before after (files ++ more) (made ++ moreMade) where
  file place content hmem := by
    rcases List.mem_append.1 hmem with hmem | hmem
    · have hplace : place ∈ files.map Prod.fst := List.mem_map.2 ⟨_, hmem, rfl⟩
      have hbetween := h.file place content hmem
      -- a file of the first step stays in the second: it is not written again, and no directory
      -- replaces it
      have hmade : place ∉ moreMade := fun hin => h'.noFile place hin content hbetween
      rw [h'.kept place (honce place hplace) hmade, hbetween]
    · exact h'.file place content hmem
  directory place hmem := by
    rcases List.mem_append.1 hmem with hmem | hmem
    · by_cases hmade : place ∈ moreMade
      · exact h'.directory place hmade
      · have hbetween := h.directory place hmem
        rw [h'.kept place (fun hin => h'.noDirectory place hin hbetween) hmade, hbetween]
    · exact h'.directory place hmem
  kept place hfiles hmade := by
    rw [List.map_append, List.mem_append, not_or] at hfiles
    rw [List.mem_append, not_or] at hmade
    rw [h'.kept place hfiles.2 hmade.2, h.kept place hfiles.1 hmade.1]
  noDirectory place hmem hbefore := by
    rw [List.map_append, List.mem_append] at hmem
    rcases hmem with hmem | hmem
    · exact h.noDirectory place hmem hbefore
    · by_cases hfirst : place ∈ files.map Prod.fst
      · exact h.noDirectory place hfirst hbefore
      · refine h'.noDirectory place hmem ?_
        by_cases hmade : place ∈ made
        · exact h.directory place hmade
        · rw [h.kept place hfirst hmade, hbefore]
  noFile place hmem content hbefore := by
    rcases List.mem_append.1 hmem with hmem | hmem
    · exact h.noFile place hmem content hbefore
    · by_cases hmade : place ∈ made
      · exact h.noFile place hmade content hbefore
      · by_cases hfirst : place ∈ files.map Prod.fst
        · obtain ⟨content, hfile⟩ := h.file_of_mem hfirst
          exact h'.noFile place hmem content hfile
        · exact h'.noFile place hmem content (by rw [h.kept place hfirst hmade, hbefore])

/-- A directory stays one. -/
theorem stays (h : Effect before after files made) (hplace : before.look place = some .directory) :
    after.look place = some .directory := by
  by_cases hmade : place ∈ made
  · exact h.directory place hmade
  · rw [h.kept place (fun hin => h.noDirectory place hin hplace) hmade, hplace]

/-- A file that is not written stays, and no other comes: where a directory was made there is none
before or afterwards. -/
theorem file_iff_of_not_mem (h : Effect before after files made)
    (hplace : place ∉ files.map Prod.fst) (content : List UInt8) :
    after.look place = some (.file content) ↔ before.look place = some (.file content) := by
  by_cases hmade : place ∈ made
  · constructor
    · intro hfile
      cases (h.directory place hmade).symm.trans hfile
    · exact fun hfile => absurd hfile (h.noFile place hmade content)
  · rw [h.kept place hplace hmade]

end Effect

/-! ## Single steps -/

/-- A file that is written where no directory is. -/
theorem effect_putFile {content : List UInt8} (h : tree.putFile place content = some after) :
    Effect tree after [(place, content)] [] := by
  unfold putFile at h
  split at h
  · cases h
  rename_i hdirectory
  rw [isDirectory_iff] at hdirectory
  have hlook := look_put (isLeaf_file content) hdirectory h
  exact {
    file := fun _ _ hmem => by
      cases List.mem_singleton.1 hmem
      rw [hlook, if_pos rfl]
      rfl
    directory := nofun
    kept := fun other hother _ => by
      rw [hlook, if_neg (fun heq => hother (List.mem_singleton.2 heq))]
    noDirectory := fun _ hmem => List.mem_singleton.1 hmem ▸ hdirectory
    noFile := nofun }

/-- A directory that is made where there is one already, or none and no file. -/
theorem effect_makeDirectory (h : tree.makeDirectory place = some after) :
    Effect tree after [] [place] := by
  unfold makeDirectory at h
  split at h
  · -- The place was a directory already: nothing is written.
    rename_i entries hget
    cases h
    have hlook : tree.look place = some .directory := by rw [look, hget]; rfl
    exact {
      file := nofun
      directory := fun _ hmem => List.mem_singleton.1 hmem ▸ hlook
      kept := fun _ _ _ => rfl
      noDirectory := nofun
      noFile := fun _ hmem content hfile => by
        rw [List.mem_singleton.1 hmem, hlook] at hfile
        cases hfile }
  · cases h
  · -- Nothing stood there: an empty directory is put, which is a leaf and displaces nothing.
    rename_i hget
    have hnothing : tree.look place = none := by rw [look, hget]; rfl
    have hlook := look_put isLeaf_empty (by rw [hnothing]; nofun) h
    exact {
      file := nofun
      directory := fun _ hmem => by
        rw [List.mem_singleton.1 hmem, hlook, if_pos rfl]
        rfl
      kept := fun other _ hother => by
        rw [hlook, if_neg (fun heq => hother (List.mem_singleton.2 heq))]
      noDirectory := nofun
      noFile := fun _ hmem content hfile => by
        rw [List.mem_singleton.1 hmem, hnothing] at hfile
        cases hfile }

/-- **From a directory a step of a way can be taken,** unless a file is in the way. -/
theorem look_of_makeDirectory_eq_none (hhere : tree.look here = some .directory) (part : PathPart)
    (h : tree.makeDirectory (placeOf here part) = none) :
    ∃ content, tree.look (placeOf here part) = some (.file content) := by
  unfold makeDirectory at h
  split at h
  · cases h
  · rename_i content hget
    exact ⟨content, look_eq_file_iff.2 hget⟩
  · -- nothing is there, so the part is a name, and under it a directory can be made
    rename_i hget
    exfalso
    cases part with
    | root => cases hget
    | here =>
      rw [placeOf] at hget
      rw [look, hget] at hhere
      cases hhere
    | name name =>
      obtain ⟨result, hresult⟩ := exists_put empty name hhere
      rw [placeOf, hresult] at h
      cases h
    | parent =>
      rw [placeOf] at hget
      rcases List.eq_nil_or_concat here with rfl | ⟨above, last, rfl⟩
      · cases hget
      · rw [List.concat_eq_append, List.dropLast_concat] at hget
        rw [List.concat_eq_append] at hhere
        have habove : tree.look above = some .directory := look_of_append hhere
        rw [look, hget] at habove
        cases habove

/-! ## Ways -/

/-- The places that a way passes, the one it leads to included. -/
def way : List PathPart → List String → List (List String)
  | [], _ => []
  | part :: rest, here => placeOf here part :: way rest (placeOf here part)

/-- Whether a file stands at a place. -/
def isFile (tree : FileTree) (place : List String) : Bool :=
  match tree.look place with
  | some (.file _) => true
  | _ => false

/-- The test for a file looks at the place. -/
theorem isFile_iff :
    tree.isFile place = true ↔ ∃ content, tree.look place = some (.file content) := by
  unfold isFile
  split
  · rename_i content hlook
    simp [hlook]
  · rename_i hlook
    simp only [Bool.false_eq_true, false_iff, not_exists]
    exact hlook

/-- The places before the first one with a file. -/
def passed (tree : FileTree) (places : List (List String)) : List (List String) :=
  places.takeWhile fun place => !tree.isFile place

/-- Where a directory stands there is no file. -/
theorem isFile_of_look_directory (h : tree.look place = some .directory) :
    tree.isFile place = false := by
  rw [isFile, h]

/-- A directory on the way is passed. -/
theorem passed_cons_of_directory {places : List (List String)}
    (h : tree.look place = some .directory) :
    tree.passed (place :: places) = place :: tree.passed places := by
  rw [passed, List.takeWhile_cons_of_pos (by rw [isFile_of_look_directory h]; rfl)]
  rfl

/-- **The directories on a way are made,** as far as no file is in the way. -/
theorem effect_makeWay {parts : List PathPart} {parent : Option (List String)}
    (hhere : tree.look here = some .directory) (h : makeWay parts here tree = (after, parent)) :
    Effect tree after [] (after.passed (way parts here)) ∧
      ∀ place, parent = some place → place = parts.foldl placeOf here ∧
        after.look place = some .directory ∧ after.passed (way parts here) = way parts here := by
  induction parts generalizing here tree with
  | nil =>
    cases h
    refine ⟨.refl after, fun place hplace => ?_⟩
    cases hplace
    exact ⟨rfl, hhere, rfl⟩
  | cons part rest ih =>
    rw [makeWay] at h
    rw [way]
    cases hmade : tree.makeDirectory (placeOf here part) with
    | none =>
      rw [hmade] at h
      cases h
      obtain ⟨content, hfile⟩ := look_of_makeDirectory_eq_none hhere part hmade
      have hnone : after.passed (placeOf here part :: way rest (placeOf here part)) = [] :=
        List.takeWhile_cons_of_neg (by rw [isFile_iff.2 ⟨content, hfile⟩]; decide)
      rw [hnone]
      -- the way ends at a file, so no directory behind it is made
      exact ⟨.refl after, nofun⟩
    | some made =>
      rw [hmade] at h
      have hstep := effect_makeDirectory hmade
      have hplace := hstep.directory _ List.mem_cons_self
      obtain ⟨hrest, hparent⟩ := ih hplace h
      rw [passed_cons_of_directory (hrest.stays hplace)]
      refine ⟨hstep.trans hrest nofun, fun place heq => ?_⟩
      obtain ⟨hfold, hlook, hall⟩ := hparent place heq
      exact ⟨hfold, hlook, by rw [hall]⟩

end FileTree

end ClientForge
