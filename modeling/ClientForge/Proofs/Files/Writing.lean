/-
  Writing a set of files is not all or nothing.

  The files are written one after the other up to the first that cannot be, and what was written by
  then stays: there is no step that would take it back.  A file cannot be written if a file stands in
  its way, where a directory would have to be, or if a directory stands at its own place.

  1. **One file** (`effect_writeFile`): the directories on its way are made first, then the file is
     put.  If the second step fails the first has been done all the same, so even a single file can
     leave something behind without being written.
  2. **All files** (`effect_writeFiles`): the first `count` of them have their content, the directories
     on their way are there, and of the file that failed those on its way up to the file that stands
     in it.  The effects of the steps are put one behind the other, for which no file may be written
     twice: the paths of a set differ in their parts, and so do the places (`target_injective`).
  3. **When nothing has changed** (`writeFiles_eq_self_iff`): exactly if all that the run does was
     there before.  One direction is what the effect says; the other goes through the run once more
     and finds each step without effect.
  4. **The whole** (`write_all_or_nothing_iff`): success means that every file has its content, and a
     failure leaves the tree as it was only in the case of the third point.

  So "either everything or nothing" fails as soon as a file before the offending one is new, and the
  last section has the smallest tree where this happens.
-/
import ClientForge.Proofs.Files.Paths
import ClientForge.Proofs.Files.Places

namespace ClientForge.FileTree

variable {tree after : FileTree} {here : List String}

/-! ## One file -/

/-- The place that a row of parts leads to. -/
def led (parts : List PathPart) (here : List String) : List String := parts.foldl placeOf here

/-- **A file is written in two steps,** its way and the file; without the second the tree stays as
the first left it. -/
theorem writeFile_cases {path : String} {content : List UInt8} {done : Bool}
    (hhere : tree.look here = some .directory)
    (h : writeFile here path content tree = (after, done)) :
    ∃ made parent, makeWay (Path.parts path).dropLast here tree = (made, parent) ∧
      ((done = false ∧ after = made) ∨
        done = true ∧ parent.isSome = true ∧
          made.putFile (led (Path.parts path) here) content = some after) := by
  unfold writeFile at h
  dsimp only at h
  cases hway : makeWay (Path.parts path).dropLast here tree with
  | mk made parent =>
    refine ⟨made, parent, rfl, ?_⟩
    obtain ⟨-, hparent⟩ := effect_makeWay hhere hway
    rw [hway] at h
    cases parent with
    | none =>
      cases h
      -- a file stands in the way, so there is no directory to put this one into
      exact Or.inl ⟨rfl, rfl⟩
    | some parent => cases hlast : (Path.parts path).getLast? with
      | none =>
        rw [hlast] at h
        cases h
        exact Or.inl ⟨rfl, rfl⟩
      | some last =>
        rw [hlast] at h
        dsimp only at h
        have hplace : placeOf parent last = led (Path.parts path) here := by
          obtain ⟨before, hbefore⟩ := List.getLast?_eq_some_iff.1 hlast
          have hled := (hparent parent rfl).1
          rw [hbefore, List.dropLast_concat] at hled
          rw [hbefore, led, List.foldl_append, ← hled]
          rfl
        rw [hplace] at h
        split at h
        · cases hput : made.putFile (led (Path.parts path) here) content with
          | none =>
            rw [hput] at h
            cases h
            exact Or.inl ⟨rfl, rfl⟩
          | some written =>
            rw [hput] at h
            cases h
            exact Or.inr ⟨rfl, rfl, rfl⟩
        · cases h
          exact Or.inl ⟨rfl, rfl⟩

/-- **What writing a file does:** all of it, or the directories as far as the way is free. -/
theorem effect_writeFile {path : String} {content : List UInt8} {done : Bool}
    (hhere : tree.look here = some .directory)
    (h : writeFile here path content tree = (after, done)) :
    let ahead := way (Path.parts path).dropLast here
    if done then Effect tree after [(led (Path.parts path) here, content)] ahead
    else Effect tree after [] (after.passed ahead) := by
  intro ahead
  obtain ⟨made, parent, hway, hcases⟩ := writeFile_cases hhere h
  obtain ⟨hmade, hparent⟩ := effect_makeWay hhere hway
  rcases hcases with ⟨rfl, rfl⟩ | ⟨rfl, hsome, hput⟩
  · exact hmade
  · obtain ⟨place, hplace⟩ := Option.isSome_iff_exists.1 hsome
    rw [(hparent place hplace).2.2] at hmade
    have heffect := hmade.trans (effect_putFile hput) nofun
    rw [List.append_nil] at heffect
    exact heffect

/-- A way changes nothing whose directories are there as far as it is free. -/
theorem makeWay_fst_eq_self {parts : List PathPart}
    (h : ∀ place ∈ tree.passed (way parts here), tree.look place = some .directory) :
    (makeWay parts here tree).1 = tree := by
  -- The way is made part by part; each step must find a directory already, so that it writes
  -- nothing.
  induction parts generalizing here with
  | nil => rfl
  | cons part rest ih =>
    rw [makeWay]
    rw [way] at h
    cases hfile : tree.isFile (placeOf here part) with
    -- A file in the way stops the making there, with nothing written.
    | true =>
      obtain ⟨content, hlook⟩ := isFile_iff.1 hfile
      rw [makeDirectory, look_eq_file_iff.1 hlook]
    | false =>
      -- The place reached here is among those passed, so the hypothesis gives the directory.
      have hplace : tree.look (placeOf here part) = some .directory := by
        apply h
        rw [passed, List.takeWhile_cons_of_pos (by rw [hfile]; rfl)]
        exact List.mem_cons_self
      rw [passed_cons_of_directory hplace] at h
      have hmade : tree.makeDirectory (placeOf here part) = some tree := by
        have hdirectory := isDirectory_iff.2 hplace
        unfold isDirectory at hdirectory
        unfold makeDirectory
        split at hdirectory
        · rename_i hget
          rw [hget]
        · cases hdirectory
      rw [hmade]
      exact ih fun place hmem => h place (List.mem_cons_of_mem _ hmem)

/-- Neither does a file that is there with its content. -/
theorem writeFile_eq_self {path : String} {content : List UInt8} {done : Bool}
    (hhere : tree.look here = some .directory)
    (h : writeFile here path content tree = (after, done))
    (hway : ∀ place ∈ tree.passed (way (Path.parts path).dropLast here),
      tree.look place = some .directory)
    (hfile : done = true → tree.get? (led (Path.parts path) here) = some (.file content)) :
    after = tree := by
  obtain ⟨made, parent, hmade, hcases⟩ := writeFile_cases hhere h
  have hself := makeWay_fst_eq_self hway
  rw [hmade] at hself
  dsimp only at hself
  subst hself
  rcases hcases with ⟨-, rfl⟩ | ⟨rfl, -, hput⟩
  · rfl
  · unfold putFile at hput
    split at hput
    · cases hput
    · rw [put_eq_self (hfile rfl)] at hput
      exact (Option.some.inj hput).symm

/-! ## All files -/

section Files

variable {base : String} {entries : List (String × String)} {count : Nat}

/-- The place of a file below the directory that the files are written to. -/
def target (here : List String) (base path : String) : List String :=
  led (Path.parts (Path.joined base path)) here

/-- The places on the way to it. -/
def wayTo (here : List String) (base path : String) : List (List String) :=
  way (Path.parts (Path.joined base path)).dropLast here

/-- The octets of a text. -/
def octets (text : String) : List UInt8 := Text.utf8 text.toList

/-- **A run goes on where a file was written,** and ends where one was not. -/
theorem writeFiles_cons_cases {path text : String}
    (h : writeFiles here base ((path, text) :: entries) tree = (after, count)) :
    (writeFile here (Path.joined base path) (octets text) tree = (after, false) ∧ count = 0) ∨
      ∃ written more, writeFile here (Path.joined base path) (octets text) tree = (written, true) ∧
        writeFiles here base entries written = (after, more) ∧ count = more + 1 := by
  unfold writeFiles at h
  unfold octets
  generalize writeFile here (Path.joined base path) (Text.utf8 text.toList) tree = step at h ⊢
  obtain ⟨written, done⟩ := step
  cases done with
  | false =>
    cases h
    exact Or.inl ⟨rfl, rfl⟩
  | true =>
    dsimp only at h
    cases hrun : writeFiles here base entries written with
    | mk last more =>
      rw [hrun] at h
      cases h
      exact Or.inr ⟨written, more, rfl, hrun, rfl⟩

/-- **What a run does:** the files up to the first that fails, with the directories on the way to
them, and of that one's those before the file that is in its way. -/
theorem effect_writeFiles (hhere : tree.look here = some .directory)
    (hdistinct : entries.Pairwise fun first second =>
      target here base first.1 ≠ target here base second.1)
    (h : writeFiles here base entries tree = (after, count)) :
    Effect tree after
      ((entries.take count).map fun entry => (target here base entry.1, octets entry.2))
      ((entries.take count).flatMap (fun entry => wayTo here base entry.1) ++
        (entries[count]?.toList.flatMap fun entry => after.passed (wayTo here base entry.1))) := by
  induction entries generalizing tree count with
  | nil =>
    cases h
    exact .refl after
  | cons entry rest ih =>
    obtain ⟨path, text⟩ := entry
    rcases writeFiles_cons_cases h with ⟨hfile, rfl⟩ | ⟨written, more, hfile, hrun, rfl⟩
    · have hstep := effect_writeFile hhere hfile
      rw [if_neg Bool.false_ne_true] at hstep
      simpa [wayTo] using hstep
    · have hstep := effect_writeFile hhere hfile
      rw [if_pos rfl] at hstep
      obtain ⟨hfirst, hrest⟩ := List.pairwise_cons.1 hdistinct
      -- the file just written is none of those that follow
      have honce : ∀ place ∈ [target here base path], place ∉
          ((rest.take more).map fun entry => (target here base entry.1, octets entry.2)).map
            Prod.fst := by
        intro place hplace hmem
        rw [List.mem_singleton.1 hplace, List.map_map] at hmem
        obtain ⟨other, hother, heq⟩ := List.mem_map.1 hmem
        exact hfirst other (List.mem_of_mem_take hother) heq.symm
      have hboth := hstep.trans (ih (hstep.stays hhere) hrest hrun) honce
      rw [← List.append_assoc] at hboth
      exact hboth

/-- A run whose files are there, and whose directories are as far as they are passed, changes
nothing. -/
theorem writeFiles_eq_self (hhere : tree.look here = some .directory)
    (h : writeFiles here base entries tree = (after, count))
    (hfiles : ∀ entry ∈ entries.take count,
      tree.get? (target here base entry.1) = some (.file (octets entry.2)) ∧
      ∀ place ∈ wayTo here base entry.1, tree.look place = some .directory)
    (hfailed : ∀ entry ∈ entries[count]?, ∀ place ∈ tree.passed (wayTo here base entry.1),
      tree.look place = some .directory) : after = tree := by
  induction entries generalizing count with
  | nil =>
    cases h
    rfl
  | cons entry rest ih =>
    obtain ⟨path, text⟩ := entry
    rcases writeFiles_cons_cases h with ⟨hfile, rfl⟩ | ⟨written, more, hfile, hrun, rfl⟩
    · have hpassed : ∀ place ∈ tree.passed (wayTo here base path),
          tree.look place = some .directory := hfailed (path, text) (by simp)
      exact writeFile_eq_self hhere hfile hpassed fun hdone => absurd hdone Bool.false_ne_true
    · obtain ⟨hfirst, hway⟩ := hfiles (path, text) (by simp)
      have hpassed : ∀ place ∈ tree.passed (wayTo here base path),
          tree.look place = some .directory :=
        fun place hmem => hway place ((List.takeWhile_sublist _).mem hmem)
      obtain rfl := writeFile_eq_self hhere hfile hpassed fun _ => hfirst
      exact ih hrun (fun entry hmem => hfiles entry (by simp [hmem])) hfailed

/-- **When a run leaves the tree as it was:** what it does was there before. -/
theorem writeFiles_eq_self_iff (hhere : tree.look here = some .directory)
    (hdistinct : entries.Pairwise fun first second =>
      target here base first.1 ≠ target here base second.1)
    (h : writeFiles here base entries tree = (after, count)) :
    after = tree ↔
      (∀ entry ∈ entries.take count,
        tree.get? (target here base entry.1) = some (.file (octets entry.2)) ∧
        ∀ place ∈ wayTo here base entry.1, tree.look place = some .directory) ∧
      ∀ entry ∈ entries[count]?, ∀ place ∈ tree.passed (wayTo here base entry.1),
        tree.look place = some .directory := by
  refine ⟨fun hsame => ?_, fun hthere => writeFiles_eq_self hhere h hthere.1 hthere.2⟩
  subst hsame
  have heffect := effect_writeFiles hhere hdistinct h
  refine ⟨fun entry hmem => ⟨?_, fun place hway => ?_⟩, fun entry hentry place hway => ?_⟩
  · exact look_eq_file_iff.1 (heffect.file _ _ (List.mem_map.2 ⟨entry, hmem, rfl⟩))
  · exact heffect.directory place
      (List.mem_append_left _ (List.mem_flatMap.2 ⟨entry, hmem, hway⟩))
  · exact heffect.directory place
      (List.mem_append_right _ (List.mem_flatMap.2 ⟨entry, Option.mem_toList.2 hentry, hway⟩))

/-- No more files are written than there are. -/
theorem count_le_length (h : writeFiles here base entries tree = (after, count)) :
    count ≤ entries.length := by
  induction entries generalizing tree count with
  | nil =>
    cases h
    exact Nat.le_refl _
  | cons entry rest ih =>
    rcases writeFiles_cons_cases h with ⟨-, rfl⟩ | ⟨written, more, -, hrun, rfl⟩
    · exact Nat.zero_le _
    · exact Nat.succ_le_succ (ih hrun)

/-! ## Different files -/

/-- A row of names leads below where one is. -/
theorem led_names (names here : List String) : led (names.map .name) here = here ++ names := by
  induction names generalizing here with
  | nil => exact (List.append_nil here).symm
  | cons name names ih =>
    rw [List.map_cons, led, List.foldl_cons]
    exact (ih _).trans (List.append_assoc here [name] names)

/-- **Paths of names lead to different places,** if they are not the same path. -/
theorem target_injective {first second : String} (hfirst : Path.Plain first)
    (hsecond : Path.Plain second) (h : target here base first = target here base second) :
    Path.parts first = Path.parts second := by
  obtain ⟨names, hnames⟩ := PathPart.exists_names hfirst
  obtain ⟨others, hothers⟩ := PathPart.exists_names hsecond
  have hbelow (names : List String) : led (Path.parts base ++ names.map .name) here =
      led (Path.parts base) here ++ names := by
    rw [led, List.foldl_append]
    exact led_names names _
  rw [target, target, Path.parts_joined base hfirst, Path.parts_joined base hsecond, hnames,
    hothers, hbelow, hbelow, List.append_cancel_left_eq] at h
  rw [hnames, hothers, h]

end Files

/-! ## Success and failure -/

/-- A run fails exactly if a file is missing. -/
theorem result_write (tree : FileTree) (here : List String) (base : String) (files : FileSet) :
    (tree.write here base files).result =
      if (tree.write here base files).count < files.entries.length then .error .write else .ok () :=
  rfl

/-- **What writing a set of files comes to.**  If it succeeds every file has its content.  If it
fails, the files before the one that failed have theirs, and the tree is as it was exactly if they
had it before, with all directories on the way to them, and those on the way to the one that failed
were there as far as no file is in the way.  Every other file is as it was, whatever comes of it. -/
theorem write_all_or_nothing_iff (tree : FileTree) (here : List String) (base : String)
    (files : FileSet) (hhere : tree.isDirectory here = true) (hordered : files.Ordered)
    (hplain : ∀ entry ∈ files.entries, Path.Plain entry.1) :
    let w := tree.write here base files
    (w.result = .ok () → ∀ entry ∈ files.entries,
      w.tree.get? (target here base entry.1) = some (.file (octets entry.2))) ∧
    (∀ e, w.result = .error e → ∃ failed, files.entries[w.count]? = some failed ∧
      (∀ entry ∈ files.entries.take w.count,
        w.tree.get? (target here base entry.1) = some (.file (octets entry.2))) ∧
      (w.tree = tree ↔
        (∀ entry ∈ files.entries.take w.count,
          tree.get? (target here base entry.1) = some (.file (octets entry.2)) ∧
          ∀ place ∈ wayTo here base entry.1, tree.isDirectory place = true) ∧
        ∀ place ∈ tree.passed (wayTo here base failed.1), tree.isDirectory place = true)) ∧
    ∀ place, (∀ entry ∈ files.entries, place ≠ target here base entry.1) → ∀ content,
      (w.tree.get? place = some (.file content) ↔ tree.get? place = some (.file content)) := by
  intro w
  have hdirectory : tree.look here = some .directory := isDirectory_iff.1 hhere
  have hdistinct : files.entries.Pairwise fun first second =>
      target here base first.1 ≠ target here base second.1 := by
    refine hordered.distinct.imp_of_mem fun hfirst hsecond hne heq => hne ?_
    exact target_injective (hplain _ hfirst) (hplain _ hsecond) heq
  have hrun : writeFiles here base files.entries tree = (w.tree, w.count) := rfl
  have hcount := count_le_length hrun
  have heffect := effect_writeFiles hdirectory hdistinct hrun
  have hresult : w.result = if w.count < files.entries.length then .error .write else .ok () :=
    result_write ..
  have hwritten : ∀ entry ∈ files.entries.take w.count,
      w.tree.get? (target here base entry.1) = some (.file (octets entry.2)) := by
    intro entry hmem
    exact look_eq_file_iff.1 (heffect.file _ _ (List.mem_map.2 ⟨entry, hmem, rfl⟩))
  refine ⟨fun hok => ?_, fun e herror => ?_, fun place hplace content => ?_⟩
  · have hall : w.count = files.entries.length := by
      by_contra hne
      rw [if_pos (by omega)] at hresult
      cases hok.symm.trans hresult
    rwa [hall, List.take_length] at hwritten
  · have hlt : w.count < files.entries.length := by
      by_contra hle
      rw [if_neg hle] at hresult
      cases herror.symm.trans hresult
    -- the run has failed, so the file behind the last one written exists, and it is the one that
    -- failed
    have hfailed := List.getElem?_eq_getElem hlt
    have hself := writeFiles_eq_self_iff hdirectory hdistinct hrun
    simp only [hfailed, Option.mem_some_iff, forall_eq', ← isDirectory_iff] at hself
    exact ⟨_, hfailed, hwritten, hself⟩
  · rw [← look_eq_file_iff, ← look_eq_file_iff]
    apply heffect.file_iff_of_not_mem
    intro hmem
    rw [List.map_map] at hmem
    obtain ⟨entry, hentry, rfl⟩ := List.mem_map.1 hmem
    exact hplace entry (List.mem_of_mem_take hentry) rfl

/-! ## A crate with a file in its way -/

/-- Two files, the second one in a directory of its own. -/
def smallCrate : FileSet := .ofList [("Cargo.toml", "[package]"), ("src/lib.rs", "")]

/-- A tree with a file where that directory should be. -/
def blockedTree : FileTree :=
  directory [("out", directory [("src", file (octets "in the way"))])]

/-- The first file is written and stays, the second one fails; in an empty directory both are
written. -/
theorem write_all_or_nothing_iff_blocked :
    let w := blockedTree.write [] "out" smallCrate
    w.result = .error .write ∧ w.tree ≠ blockedTree ∧
      w.tree.get? ["out", "Cargo.toml"] = some (.file (octets "[package]")) ∧
      (empty.write [] "out" smallCrate).tree.get? ["out", "src", "lib.rs"] =
        some (.file (octets "")) := by
  intro w
  have hordered : smallCrate.Ordered := FileSet.ordered_ofList _
  have hentries : smallCrate.entries = [("Cargo.toml", "[package]"), ("src/lib.rs", "")] := by
    decide +kernel
  have hplain : ∀ entry ∈ smallCrate.entries, Path.Plain entry.1 := by decide +kernel
  have hfirst : target [] "out" "Cargo.toml" = ["out", "Cargo.toml"] := by decide +kernel
  have hsecond : target [] "out" "src/lib.rs" = ["out", "src", "lib.rs"] := by decide +kernel
  have hcount : w.count = 1 := by decide +kernel
  have hresult : w.result = .error .write := by
    have hlt : w.count < smallCrate.entries.length := by rw [hcount, hentries]; decide
    exact (result_write ..).trans (if_pos hlt)
  have hok : (empty.write [] "out" smallCrate).result = .ok () := by
    have hall : (empty.write [] "out" smallCrate).count = 2 := by decide +kernel
    rw [result_write, hall, hentries]
    rfl
  obtain ⟨-, hfailed, -⟩ := write_all_or_nothing_iff blockedTree [] "out" smallCrate rfl hordered
    hplain
  obtain ⟨failed, -, hwritten, hsame⟩ := hfailed .write hresult
  have hmem : ("Cargo.toml", "[package]") ∈ smallCrate.entries.take w.count := by
    rw [hcount, hentries]
    exact List.mem_cons_self
  obtain ⟨hdone, -⟩ := write_all_or_nothing_iff empty [] "out" smallCrate rfl hordered hplain
  have hmanifest := hwritten _ hmem
  have hlibrary := hdone hok ("src/lib.rs", "") (by rw [hentries]; simp)
  rw [hfirst] at hmanifest
  rw [hsecond] at hlibrary
  refine ⟨hresult, fun heq => ?_, hmanifest, hlibrary⟩
  -- if the tree were as before, the manifest would have been there before, which it was not
  have hthere := ((hsame.1 heq).1 _ hmem).1
  have hnothing : (blockedTree.get? ["out", "Cargo.toml"]).isNone = true := by decide +kernel
  rw [hfirst] at hthere
  rw [hthere] at hnothing
  cases hnothing

end ClientForge.FileTree
