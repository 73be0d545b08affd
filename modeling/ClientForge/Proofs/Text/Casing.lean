/-
  What changing case twice does to a text.

  The mappings to lower and upper case are tables.  A few characters have special forms, of several
  letters perhaps; all others go by runs, each of which shifts many characters at once.  There are far
  too many characters to look at each, so what is said here of every character follows from few facts
  about a table as a whole (`Coherent`):

  * its runs stand in order, so a character is in one of them at most;
  * no character has both a special form and a run;
  * nothing that the table maps to is mapped by it again.

  The facts are about sets of numbers, and a set is kept as the bits of one number, so that two sets can
  be compared at a stroke (`not_mem_of_bits_and`).

  **Once is enough.**  By the third fact a lower-case form is its own lower-case form
  (`small_of_mem_lowerChar`), and the same is true of upper case.

  **There and back.**  Lower case does not always undo upper case: `ſ` has the capital of `s`.  But a
  capital comes back when its lower-case form is raised (`Capital`), since it is also the capital of the
  letter that it is lowered to.  Every upper-case form of a small character is such a capital
  (`capital_of_mem_upperChar`); that is checked run by run, by looking for the run of lower case that
  undoes it.

  For texts there is one more thing.  The capital sigma is lowered differently at the end of a word, so
  lower case of a text is not that of its characters one by one; but it is made of small characters all
  the same (`small_of_mem_lowerAfter`).
-/
import ClientForge.Text.Casing
import Mathlib.Data.List.Chain
import Mathlib.Data.Nat.Bitwise

namespace ClientForge.Text

/-! ## Sets of code points -/

/-- The numbers as the bits that are set in one number. -/
def bits (ns : List Nat) : Nat := ns.foldr (fun n rest => 1 <<< n ||| rest) 0

/-- A bit is set if its number is in the row. -/
theorem testBit_bits {ns : List Nat} {n : Nat} : (bits ns).testBit n = true ↔ n ∈ ns := by
  induction ns with
  | nil => simp [bits]
  | cons m ns ih =>
    show (1 <<< m ||| bits ns).testBit n = true ↔ n ∈ m :: ns
    rw [Nat.testBit_or, Bool.or_eq_true, Nat.one_shiftLeft, Nat.testBit_two_pow,
      decide_eq_true_eq, ih, List.mem_cons, eq_comm]

/-- Rows of numbers with no bit in common have no member in common. -/
theorem not_mem_of_bits_and {ns ms : List Nat} (h : bits ns &&& bits ms = 0) {n : Nat}
    (hn : n ∈ ns) : n ∉ ms := by
  intro hm
  have hboth : (bits ns &&& bits ms).testBit n = true := by
    rw [Nat.testBit_and, testBit_bits.2 hn, testBit_bits.2 hm]
    rfl
  rw [h, Nat.zero_testBit] at hboth
  cases hboth

/-! ## Runs -/

namespace CaseRun

/-- Whether the run maps the code point. -/
def holds (run : CaseRun) (n : Nat) : Bool :=
  run.first ≤ n && n ≤ run.last && (n - run.first) % run.step == 0

/-- What the run maps the code point to. -/
def target (run : CaseRun) (n : Nat) : Nat := (Int.ofNat n + run.shift).toNat

/-- The code points that the run maps. -/
def members (run : CaseRun) : List Nat :=
  List.range' run.first ((run.last - run.first) / run.step + 1) run.step

/-- One run ends before the other begins. -/
def Before (run other : CaseRun) : Prop := run.last < other.first ∧ other.first ≤ other.last

/-- Whether one run ends before another begins can be computed. -/
instance : DecidableRel Before := fun run other =>
  inferInstanceAs (Decidable (run.last < other.first ∧ other.first ≤ other.last))

/-- The order of runs is transitive. -/
instance : Trans Before Before Before where
  trans h₁ h₂ := ⟨Nat.lt_of_lt_of_le h₁.1 (Nat.le_trans h₁.2 (Nat.le_of_lt h₂.1)), h₂.2⟩

variable {run : CaseRun} {n : Nat}

/-- A run maps the code points from its first to its last, in its steps. -/
theorem holds_iff :
    run.holds n = true ↔ run.first ≤ n ∧ n ≤ run.last ∧ (n - run.first) % run.step = 0 := by
  rw [holds, Bool.and_eq_true, Bool.and_eq_true, decide_eq_true_eq, decide_eq_true_eq, beq_iff_eq,
    and_assoc]

/-- They are listed among its members. -/
theorem mem_members (h : run.holds n = true) : n ∈ run.members := by
  obtain ⟨hfirst, hlast, hstep⟩ := holds_iff.1 h
  have hsteps : run.step * ((n - run.first) / run.step) = n - run.first :=
    Nat.mul_div_cancel' (Nat.dvd_of_mod_eq_zero hstep)
  have hcount : (n - run.first) / run.step ≤ (run.last - run.first) / run.step :=
    Nat.div_le_div_right (by omega)
  exact List.mem_range'.2 ⟨(n - run.first) / run.step, by omega, by omega⟩

/-- Of runs in order only one holds a code point. -/
theorem find?_holds {runs : List CaseRun} (hordered : runs.Pairwise Before) (hrun : run ∈ runs)
    (h : run.holds n = true) : runs.find? (·.holds n) = some run := by
  induction hordered with
  | nil => cases hrun
  | @cons first rest hfirst hordered ih =>
    rcases List.mem_cons.1 hrun with rfl | hrun
    · exact List.find?_cons_of_pos h
    · have hbefore := (hfirst run hrun).1
      have hfrom := (holds_iff.1 h).1
      rw [List.find?_cons_of_neg, ih hrun]
      rw [holds_iff]
      omega

end CaseRun

open CaseRun

/-! ## Tables -/

section

variable (specials : List (Nat × List Nat)) (runs : List CaseRun)

/-- The code points that the table maps. -/
def mappedCodes : List Nat := specials.map Prod.fst ++ runs.flatMap members

/-- The code points that the table maps to. -/
def formCodes : List Nat :=
  specials.flatMap Prod.snd ++ runs.flatMap fun run => run.members.map run.target

/-- A table of case mappings as it should be: each run ends before the next one begins, no
character has both a special form and a simple one, no special form is empty, and the forms are
made of characters that are not mapped again. -/
structure Coherent : Prop where
  ordered : runs.IsChain Before
  apart : bits (specials.map Prod.fst) &&& bits (runs.flatMap members) = 0
  nonempty : ∀ entry ∈ specials, entry.2 ≠ []
  valid : ∀ n ∈ formCodes specials runs, n.isValidChar
  final : bits (formCodes specials runs) &&& bits (mappedCodes specials runs) = 0

end

variable {specials : List (Nat × List Nat)} {runs : List CaseRun} {c d : Char}

/-- What a run maps to is a form of the table. -/
theorem mem_formCodes {run : CaseRun} (hrun : run ∈ runs) {n : Nat} (h : run.holds n = true) :
    run.target n ∈ formCodes specials runs :=
  List.mem_append_right _ (List.mem_flatMap.2 ⟨run, hrun, List.mem_map_of_mem (mem_members h)⟩)

/-- The runs shift a code point by the one that holds it. -/
theorem shiftedBy_eq (runs : List CaseRun) (n : Nat) :
    shiftedBy runs n = (runs.find? (·.holds n)).elim n (·.target n) := by
  unfold shiftedBy
  split
  · rename_i run hrun
    have hfind : runs.find? (·.holds n) = some run := hrun
    rw [hfind]
    rfl
  · rename_i hnone
    have hfind : runs.find? (·.holds n) = none := hnone
    rw [hfind]
    rfl

/-- A character without a special form goes by the runs. -/
theorem mapCase_of_not_special (h : ∀ entry ∈ specials, entry.1 ≠ c.toNat) :
    mapCase specials runs c = [Char.ofNat (shiftedBy runs c.toNat)] := by
  have hspecial : specials.find? (fun entry => entry.1 == c.toNat) = none := by
    rw [List.find?_eq_none]
    intro entry hentry hkey
    exact h entry hentry (eq_of_beq hkey)
  rw [mapCase, hspecial]

/-- A mapped character becomes forms of the table, any other stays. -/
theorem mapCase_cases (specials : List (Nat × List Nat)) (runs : List CaseRun) (c : Char) :
    mapCase specials runs c = [c] ∨
      c.toNat ∈ mappedCodes specials runs ∧
        ∀ d ∈ mapCase specials runs c, ∃ n ∈ formCodes specials runs, d = Char.ofNat n := by
  unfold mapCase
  split
  · -- Special cases come first: a code with several letters in its other case.
    rename_i entry hentry
    have hmem := List.mem_of_find?_eq_some hentry
    have hkey : entry.1 = c.toNat := by simpa using List.find?_some hentry
    refine Or.inr ⟨?_, fun d hd => ?_⟩
    · rw [← hkey]
      exact List.mem_append_left _ (List.mem_map_of_mem hmem)
    · obtain ⟨n, hn, rfl⟩ := List.mem_map.1 hd
      exact ⟨n, List.mem_append_left _ (List.mem_flatMap.2 ⟨entry, hmem, hn⟩), rfl⟩
  · -- Else a run of codes that are shifted alike, or the letter as it is.
    rw [shiftedBy_eq]
    cases hfind : runs.find? (·.holds c.toNat) with
    | none =>
      show [Char.ofNat c.toNat] = [c] ∨ _
      rw [Char.ofNat_toNat]
      exact Or.inl rfl
    | some run =>
      have hmem := List.mem_of_find?_eq_some hfind
      have hholds := List.find?_some hfind
      have hmembers : c.toNat ∈ runs.flatMap members :=
        List.mem_flatMap.2 ⟨run, hmem, mem_members hholds⟩
      refine Or.inr ⟨List.mem_append_right _ hmembers, fun d hd => ?_⟩
      rw [List.mem_singleton.1 hd]
      exact ⟨run.target c.toNat, mem_formCodes hmem hholds, rfl⟩

/-- A character that is not mapped stays. -/
theorem mapCase_of_not_mem (h : c.toNat ∉ mappedCodes specials runs) :
    mapCase specials runs c = [c] :=
  (mapCase_cases specials runs c).resolve_right fun hmapped => h hmapped.1

namespace Coherent

/-- A form is a character. -/
theorem toNat_form (h : Coherent specials runs) {n : Nat} (hn : n ∈ formCodes specials runs) :
    (Char.ofNat n).toNat = n := by
  rw [Char.ofNat, dif_pos (h.valid n hn)]
  rfl

/-- **A form is final:** mapping it again changes nothing. -/
theorem mapCase_form (h : Coherent specials runs) {n : Nat} (hn : n ∈ formCodes specials runs) :
    mapCase specials runs (Char.ofNat n) = [Char.ofNat n] := by
  apply mapCase_of_not_mem
  rw [h.toNat_form hn]
  exact not_mem_of_bits_and h.final hn

/-- What a character becomes is mapped to itself. -/
theorem mapCase_of_mem (h : Coherent specials runs) (hd : d ∈ mapCase specials runs c) :
    mapCase specials runs d = [d] := by
  rcases mapCase_cases specials runs c with hsame | ⟨-, hforms⟩
  · rw [hsame] at hd
    rw [List.mem_singleton.1 hd, hsame]
  · obtain ⟨n, hn, rfl⟩ := hforms d hd
    exact h.mapCase_form hn

/-- Every character becomes something. -/
theorem mapCase_ne_nil (h : Coherent specials runs) (c : Char) : mapCase specials runs c ≠ [] := by
  unfold mapCase
  split
  · rename_i entry hentry
    intro hnil
    exact h.nonempty entry (List.mem_of_find?_eq_some hentry) (List.map_eq_nil_iff.1 hnil)
  · exact List.cons_ne_nil _ _

/-- What a run of the table says of a character is what becomes of it. -/
theorem mapCase_of_holds (h : Coherent specials runs) {run : CaseRun} (hrun : run ∈ runs)
    (hholds : run.holds c.toNat = true) :
    mapCase specials runs c = [Char.ofNat (run.target c.toNat)] := by
  have hmember : c.toNat ∈ runs.flatMap members :=
    List.mem_flatMap.2 ⟨run, hrun, mem_members hholds⟩
  have hspecial : ∀ entry ∈ specials, entry.1 ≠ c.toNat := by
    intro entry hentry hkey
    refine not_mem_of_bits_and h.apart (List.mem_map_of_mem hentry) ?_
    rwa [hkey]
  have hfind := find?_holds h.ordered.pairwise hrun hholds
  rw [mapCase_of_not_special hspecial, shiftedBy_eq, hfind]
  rfl

end Coherent

/-- The table of lower case is as it should be. -/
theorem coherent_lower : Coherent lowerSpecials lowerRuns where
  ordered := by decide +kernel
  apart := by decide +kernel
  nonempty := by decide
  valid := by decide +kernel
  final := by decide +kernel

/-- The table of upper case is as it should be. -/
theorem coherent_upper : Coherent upperSpecials upperRuns where
  ordered := by decide +kernel
  apart := by decide +kernel
  nonempty := by decide
  valid := by decide +kernel
  final := by decide +kernel

/-! ## Both cases -/

/-- Of a table whose other runs begin beyond ASCII only the first run maps ASCII. -/
theorem mapCase_ascii {first : CaseRun} (hspecials : ∀ entry ∈ specials, 0x80 ≤ entry.1)
    (hruns : ∀ run ∈ runs, 0x80 ≤ run.first) (hc : c.toNat < 0x80) :
    mapCase specials (first :: runs) c = mapCase [] [first] c := by
  have hspecial : ∀ entry ∈ specials, entry.1 ≠ c.toNat := by
    intro entry hentry hkey
    have hbeyond := hspecials entry hentry
    omega
  have hrun : runs.find? (·.holds c.toNat) = none := by
    rw [List.find?_eq_none]
    intro run hrun hholds
    have hbeyond := hruns run hrun
    have hfrom := (holds_iff.1 hholds).1
    omega
  have hfind : (first :: runs).find? (·.holds c.toNat) = [first].find? (·.holds c.toNat) := by
    rw [List.find?_cons, List.find?_cons, hrun, List.find?_nil]
  rw [mapCase_of_not_special hspecial, mapCase_of_not_special (List.forall_mem_nil _),
    shiftedBy_eq, hfind, ← shiftedBy_eq]

/-- The short rule for ASCII agrees with the table. -/
theorem lowerChar_eq (c : Char) : lowerChar c = mapCase lowerSpecials lowerRuns c := by
  rw [lowerChar]
  split
  · rename_i hascii
    have hall : ∀ n < 0x80, [(Char.ofNat n).toLower] =
        mapCase [] (lowerRuns.take 1) (Char.ofNat n) := by
      decide
    have hc := hall c.toNat hascii
    rw [Char.ofNat_toNat] at hc
    exact hc.trans (mapCase_ascii (by decide +kernel) (by decide +kernel) hascii).symm
  · rfl

/-- The short rule for ASCII agrees with the table of upper case. -/
theorem upperChar_eq (c : Char) : upperChar c = mapCase upperSpecials upperRuns c := by
  rw [upperChar]
  split
  · rename_i hascii
    have hall : ∀ n < 0x80, [(Char.ofNat n).toUpper] =
        mapCase [] (upperRuns.take 1) (Char.ofNat n) := by
      decide
    have hc := hall c.toNat hascii
    rw [Char.ofNat_toNat] at hc
    exact hc.trans (mapCase_ascii (by decide +kernel) (by decide +kernel) hascii).symm
  · rfl

/-- Whether another run maps all that the run maps to back again. -/
def CaseRun.undoneBy (run other : CaseRun) : Bool :=
  run.members.all fun n =>
    run.holds n && other.holds (run.target n) && other.target (run.target n) == n

/-- Whether lower case undoes what the run maps to upper case: of runs in order only the first that
does not end in front of its capitals can hold them. -/
def isUndone (run : CaseRun) : Bool :=
  (lowerRuns.find? fun other => Nat.ble (run.target run.first) other.last).any run.undoneBy

/-- The capitals that are lowered to a letter of which they are the capital. -/
def capitalCodes : List Nat :=
  (upperRuns.filter isUndone).flatMap fun run => run.members.map run.target

/-- A form of upper case that has a lower-case form is one of them. -/
theorem mem_capitalCodes {n : Nat} (hform : n ∈ formCodes upperSpecials upperRuns)
    (hmapped : n ∈ mappedCodes lowerSpecials lowerRuns) : n ∈ capitalCodes := by
  have hall : bits (formCodes upperSpecials upperRuns) &&&
      bits (mappedCodes lowerSpecials lowerRuns) ||| bits capitalCodes = bits capitalCodes := by
    decide +kernel
  rw [← testBit_bits, ← hall, Nat.testBit_or, Nat.testBit_and, testBit_bits.2 hform,
    testBit_bits.2 hmapped]
  rfl

/-- The character is the capital of its lower-case form. -/
def Capital (d : Char) : Prop :=
  upperChar d = [d] ∧ ∃ letter, lowerChar d = [letter] ∧ upperChar letter = [d]

/-- Each of them is the capital of its lower-case form. -/
theorem capital_of_mem_capitalCodes {n : Nat} (hn : n ∈ capitalCodes) : Capital (Char.ofNat n) := by
  obtain ⟨run, hrun, hn⟩ := List.mem_flatMap.1 hn
  obtain ⟨letter, hletter, rfl⟩ := List.mem_map.1 hn
  obtain ⟨hrun, hundone⟩ := List.mem_filter.1 hrun
  obtain ⟨other, hother, hundone⟩ := (Option.any_eq_true _ _).1 hundone
  have hback := List.all_eq_true.1 hundone letter hletter
  rw [Bool.and_eq_true, Bool.and_eq_true, beq_iff_eq] at hback
  obtain ⟨⟨hholds, hholdsBack⟩, hback⟩ := hback
  have hother : other ∈ lowerRuns := List.mem_of_find?_eq_some hother
  -- both the letter and its capital are characters, being forms of the other
  have hcapital : (Char.ofNat (run.target letter)).toNat = run.target letter :=
    coherent_upper.toNat_form (mem_formCodes hrun hholds)
  have hsmall : (Char.ofNat letter).toNat = letter := by
    rw [← hback]
    exact coherent_lower.toNat_form (mem_formCodes hother hholdsBack)
  refine ⟨?_, Char.ofNat letter, ?_, ?_⟩
  · rw [upperChar_eq, coherent_upper.mapCase_form (mem_formCodes hrun hholds)]
  · rw [lowerChar_eq, coherent_lower.mapCase_of_holds hother (by rwa [hcapital]), hcapital, hback]
  · rw [upperChar_eq, coherent_upper.mapCase_of_holds hrun (by rwa [hsmall]), hsmall]

/-- The character is its own lower-case form. -/
def Small (c : Char) : Prop := lowerChar c = [c]

/-- Whether a character is small can be computed. -/
instance : DecidablePred Small := fun c => inferInstanceAs (Decidable (lowerChar c = [c]))

/-- **Lower case is final**, character by character. -/
theorem small_of_mem_lowerChar (hd : d ∈ lowerChar c) : Small d := by
  rw [lowerChar_eq] at hd
  exact (lowerChar_eq d).trans (coherent_lower.mapCase_of_mem hd)

/-- **The upper-case form of a small character** is made of capitals. -/
theorem capital_of_mem_upperChar (hc : Small c) (hd : d ∈ upperChar c) : Capital d := by
  rw [upperChar_eq] at hd
  rcases mapCase_cases upperSpecials upperRuns c with hsame | ⟨-, hforms⟩
  · rw [hsame, List.mem_singleton] at hd
    subst hd
    have hupper : upperChar d = [d] := (upperChar_eq d).trans hsame
    exact ⟨hupper, d, hc, hupper⟩
  · obtain ⟨n, hn, rfl⟩ := hforms d hd
    by_cases hmapped : n ∈ mappedCodes lowerSpecials lowerRuns
    · exact capital_of_mem_capitalCodes (mem_capitalCodes hn hmapped)
    · -- what lower case leaves alone is its own capital
      have hupper : upperChar (Char.ofNat n) = [Char.ofNat n] :=
        (upperChar_eq _).trans (coherent_upper.mapCase_form hn)
      have hlower : lowerChar (Char.ofNat n) = [Char.ofNat n] := by
        rw [lowerChar_eq]
        apply mapCase_of_not_mem
        rwa [coherent_upper.toNat_form hn]
      exact ⟨hupper, Char.ofNat n, hlower, hupper⟩

/-- Every character has a lower-case form. -/
theorem lowerChar_ne_nil (c : Char) : lowerChar c ≠ [] := by
  rw [lowerChar_eq]
  exact coherent_lower.mapCase_ne_nil c

/-- Every character has an upper-case form. -/
theorem upperChar_ne_nil (c : Char) : upperChar c ≠ [] := by
  rw [upperChar_eq]
  exact coherent_upper.mapCase_ne_nil c

/-! ## Texts -/

variable {before cs : List Char}

/-- What is in lower case comes from some character, or it is one of the two small sigmas. -/
theorem mem_lowerAfter (hd : d ∈ lowerAfter before cs) :
    (∃ c ∈ cs, d ∈ lowerChar c) ∨ d = 'ς' ∨ d = 'σ' := by
  induction cs generalizing before with
  | nil => cases hd
  | cons c cs ih =>
    rcases List.mem_append.1 hd with hd | hd
    · split at hd
      · split at hd
        · exact Or.inr (Or.inl (List.mem_singleton.1 hd))
        · exact Or.inr (Or.inr (List.mem_singleton.1 hd))
      · exact Or.inl ⟨c, List.mem_cons_self, hd⟩
    · rcases ih hd with ⟨c, hc, hd⟩ | hsigma
      · exact Or.inl ⟨c, List.mem_cons_of_mem _ hc, hd⟩
      · exact Or.inr hsigma

/-- A text in lower case is made of small characters. -/
theorem small_of_mem_lowerAfter (hd : d ∈ lowerAfter before cs) : Small d := by
  rcases mem_lowerAfter hd with ⟨c, -, hd⟩ | rfl | rfl
  · exact small_of_mem_lowerChar hd
  · decide +kernel
  · decide +kernel

/-- By itself the capital sigma has one small form. -/
theorem lowerChar_of_sigma (h : (c.toNat == 0x3A3) = true) : lowerChar c = ['σ'] := by
  have hchar : c = 'Σ' := by rw [← Char.ofNat_toNat c, eq_of_beq h]
  rw [hchar]
  decide +kernel

/-- **A text is in lower case** if each of its characters is. -/
theorem lowerAfter_eq_self_iff : lowerAfter before cs = cs ↔ ∀ c ∈ cs, Small c := by
  constructor
  · intro h c hc
    rw [← h] at hc
    exact small_of_mem_lowerAfter hc
  · intro h
    induction cs generalizing before with
    | nil => rfl
    | cons c cs ih =>
      obtain ⟨hc, hcs⟩ := List.forall_mem_cons.1 h
      have hsigma : ¬ (c.toNat == 0x3A3) = true := by
        intro hsigma
        have hform := (lowerChar_of_sigma hsigma).symm.trans hc
        obtain ⟨rfl, -⟩ := List.cons.inj hform
        cases hsigma
      rw [lowerAfter, if_neg hsigma, hc, ih hcs]
      rfl

/-- The first character of a text is lowered by itself. -/
theorem lower_cons (c : Char) (cs : List Char) :
    lower (c :: cs) = lowerChar c ++ lowerAfter [c] cs := by
  rw [lower, lowerAfter]
  split
  · rename_i hsigma
    rw [lowerChar_of_sigma hsigma]
    rfl
  · rfl

/-- A text that begins small is left as it is. -/
theorem uncapitalize_eq_self_iff : uncapitalize cs = cs ↔ ∀ c ∈ cs.head?, Small c := by
  cases cs with
  | nil => exact iff_of_true rfl nofun
  | cons c cs =>
    show lowerChar c ++ cs = [c] ++ cs ↔ _
    rw [List.append_cancel_right_eq]
    simp [Small]

/-- With its first letter lowered a text begins small. -/
theorem small_of_mem_head?_uncapitalize (hd : d ∈ (uncapitalize cs).head?) : Small d := by
  cases cs with
  | nil => cases hd
  | cons c cs =>
    obtain ⟨e, es, hlower⟩ := List.exists_cons_of_ne_nil (lowerChar_ne_nil c)
    rw [uncapitalize, hlower] at hd
    obtain rfl := Option.some.inj hd
    exact small_of_mem_lowerChar (hlower ▸ List.mem_cons_self)

/-- The text begins with a capital, or it is empty. -/
def Capitalized (cs : List Char) : Prop := ∀ c ∈ cs.head?, Capital c

/-- A text that begins small or with a capital begins with a capital once it is raised. -/
theorem capitalized_capitalize (h : ∀ c ∈ cs.head?, Small c ∨ Capital c) :
    Capitalized (capitalize cs) := by
  cases cs with
  | nil => exact nofun
  | cons c cs =>
    obtain ⟨d, ds, hupper⟩ := List.exists_cons_of_ne_nil (upperChar_ne_nil c)
    rw [capitalize, hupper]
    rintro _ ⟨⟩
    rcases h c rfl with hsmall | hcapital
    · exact capital_of_mem_upperChar hsmall (hupper ▸ List.mem_cons_self)
    · have hsame := hupper.symm.trans hcapital.1
      obtain ⟨rfl, -⟩ := List.cons.inj hsame
      exact hcapital

/-- **A capital comes back** when its lower-case form is raised. -/
theorem Capitalized.capitalize_uncapitalize (h : Capitalized cs) :
    capitalize (uncapitalize cs) = cs := by
  cases cs with
  | nil => rfl
  | cons c cs =>
    obtain ⟨-, letter, hlower, hupper⟩ := h c rfl
    rw [uncapitalize, hlower]
    show upperChar letter ++ cs = c :: cs
    rw [hupper]
    rfl

/-- The text is in lower case behind its capital exactly if lowering and raising it changes
nothing. -/
theorem Capitalized.capitalize_lower_iff (h : Capitalized cs) :
    capitalize (lower cs) = cs ↔ ∀ c ∈ cs.tail, Small c := by
  cases cs with
  | nil => exact iff_of_true rfl nofun
  | cons c cs =>
    obtain ⟨-, letter, hlower, hupper⟩ := h c rfl
    rw [lower_cons, hlower]
    show upperChar letter ++ lowerAfter [c] cs = [c] ++ cs ↔ ∀ c ∈ cs, Small c
    rw [hupper, List.append_cancel_left_eq, lowerAfter_eq_self_iff]

end ClientForge.Text
