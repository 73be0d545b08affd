/-
  What a raw literal says, and which texts one can say at all.

  A raw literal has no escapes, so whatever stands in the text stands in the code.  Three rules of
  the language decide what is read back (`readRawLiteral?`):

  1. **Line ends** — before anything is read, a carriage return with a line feed behind it is
     dropped (`unifiedLines`, which ordinary literals go through as well), and one that is left
     makes the literal illegal.  So no raw literal says a text with a carriage return in it.
  2. **The closing** — the literal goes from its opening fence to the FIRST quote with as many
     marks behind it.  So a fence is long enough exactly if no quote in the text has that many
     marks behind it.  Marks at the end of the text cannot help the closing fence to end the
     literal early: the closing quote stands between the two (`marks_prefix_append`).
  3. **The bound** — a fence has at most 255 marks.  So a text that has a quote with 255 marks
     behind it is out of reach, however its literal is fenced.

  The printer knows of the second rule alone: it tries one fence after the other until the text
  does not close it.  That search ends, and it ends with one mark more than the longest run behind
  a quote (`fenceSearch_iff`), which is where the printer puts its fence without searching
  (`rawLiteral_eq`).  The crux is `readRawLiteral?_fencedLiteral_iff`: a fenced literal says its
  text exactly if all three rules are kept.  The second is kept by the search, so the other two
  remain as the condition of the main statement (`literals_denote_iff`), and they are conditions on
  the text and not on the fence: where the printed literal fails, every raw literal does
  (`exists_rawLiteral_iff`), and only a literal with escapes says the text.
-/
import Mathlib.Data.List.Infix
import Mathlib.Tactic.Tauto
import ClientForge.Code.Printer
import ClientForge.Proofs.Code.TextLiteral

namespace ClientForge.Code

/-! ## Reading -/

/-- A row of the marks that a fence is made of. -/
def marks (n : Nat) : List Char := List.replicate n '#'

/-- A quote with a row of marks behind it. -/
def closing (n : Nat) : List Char := '"' :: marks n

/-- What stands in front of the first quote with `n` marks behind it, and what stands behind
these. -/
def upToClosing? (n : Nat) : List Char → Option (List Char × List Char)
  | [] => none
  | c :: cs =>
    if (closing n).isPrefixOf (c :: cs) then some ([], cs.drop n)
    else (upToClosing? n cs).map fun (content, rest) => (c :: content, rest)

/-- The most marks that a fence may have. -/
def maxMarks : Nat := 255

/-- What a raw literal says, if the text is one from beginning to end: its lines all end in a line
feed, its fence is not too long, and no carriage return is left in it. -/
def readRawLiteral? (literal : String) : Option String :=
  match unifiedLines literal.toList with
  | 'r' :: cs =>
    let fence := (cs.takeWhile (· == '#')).length
    match cs.dropWhile (· == '#') with
    | '"' :: body => match upToClosing? fence body with
      | some (content, []) =>
        if fence ≤ maxMarks ∧ '\r' ∉ content then some (String.ofList content) else none
      | _ => none
    | _ => none
  | _ => none

/-- A raw literal with a fence of `n` marks. -/
def fencedLiteral (n : Nat) (text : String) : String :=
  "r" ++ String.ofList (marks n) ++ "\"" ++ text ++ "\"" ++ String.ofList (marks n)

/-- `FenceSearch cs n found` — the search that has come to a fence of `n` marks ends with one of
`found`: as long as a quote with so many marks stands in the text, one mark more is tried. -/
inductive FenceSearch (cs : List Char) : Nat → Nat → Prop
  | works {n : Nat} (h : ¬ closing n <:+: cs) : FenceSearch cs n n
  | longer {n found : Nat} (h : closing n <:+: cs) (next : FenceSearch cs (n + 1) found) :
      FenceSearch cs n found

/-! ## Rows of marks -/

theorem marks_prefix_iff {n : Nat} {cs : List Char} :
    marks n <+: cs ↔ n ≤ (cs.takeWhile (· == '#')).length := by
  induction n generalizing cs with
  | zero => exact iff_of_true List.nil_prefix (Nat.zero_le _)
  | succ n ih =>
    have hsucc : marks (n + 1) = '#' :: marks n := List.replicate_succ
    rw [hsucc]
    cases cs with
    | nil => exact iff_of_false (by simp) (by simp)
    | cons c cs =>
      rw [List.cons_prefix_cons, ih]
      by_cases hc : c = '#'
      · subst hc
        rw [List.takeWhile_cons_of_pos (by decide), List.length_cons]
        exact (and_iff_right rfl).trans Nat.succ_le_succ_iff.symm
      · rw [List.takeWhile_cons_of_neg (by simpa using hc)]
        exact iff_of_false (fun h => hc h.1.symm) (by simp)

/-- Behind a quote no mark of the text is counted. -/
theorem marks_prefix_append {n : Nat} {cs : List Char} (rest : List Char) :
    marks n <+: cs ++ '"' :: rest ↔ marks n <+: cs := by
  have hsame : (cs ++ '"' :: rest).takeWhile (· == '#') = cs.takeWhile (· == '#') := by
    induction cs with
    | nil => exact List.takeWhile_cons_of_neg (by decide)
    | cons c cs ih =>
      rw [List.cons_append]
      by_cases hc : c = '#'
      · subst hc
        rw [List.takeWhile_cons_of_pos (by decide), List.takeWhile_cons_of_pos (by decide), ih]
      · rw [List.takeWhile_cons_of_neg (by simpa using hc),
          List.takeWhile_cons_of_neg (by simpa using hc)]
  rw [marks_prefix_iff, marks_prefix_iff, hsame]

theorem closing_prefix_cons {n : Nat} {c : Char} {cs : List Char} :
    closing n <+: c :: cs ↔ c = '"' ∧ marks n <+: cs := by
  rw [closing, List.cons_prefix_cons, eq_comm]

/-- **The longest run of marks behind a quote** decides which fences the text closes itself. -/
theorem closing_infix_iff {n : Nat} (cs : List Char) :
    closing (n + 1) <:+: cs ↔ n + 1 ≤ longestFence cs := by
  induction cs with
  | nil => exact iff_of_false (by simp [closing]) (by simp [longestFence])
  | cons c cs ih =>
    rw [List.infix_cons_iff, closing_prefix_cons, marks_prefix_iff, ih, longestFence]
    by_cases hc : c = '"'
    · rw [if_pos (beq_iff_eq.2 hc), and_iff_right hc]
      omega
    · rw [if_neg (by simpa using hc)]
      exact or_iff_right fun h => hc h.1

/-! ## Fences -/

/-- What is read up to a closing has none inside. -/
theorem not_infix_of_upToClosing? {n : Nat} {cs content rest : List Char}
    (h : upToClosing? n cs = some (content, rest)) :
    content <+: cs ∧ ¬ closing n <:+: content := by
  induction cs generalizing content with
  | nil => cases h
  | cons c cs ih =>
    rw [upToClosing?] at h
    split at h
    · cases h
      exact ⟨List.nil_prefix, by simp [closing]⟩
    · rename_i hopen
      obtain ⟨⟨before, after⟩, hread, heq⟩ := Option.map_eq_some_iff.1 h
      cases heq
      obtain ⟨hbegins, hnone⟩ := ih hread
      refine ⟨List.cons_prefix_cons.2 ⟨rfl, hbegins⟩, fun hinfix => ?_⟩
      -- a closing that begins at the first character would have ended the reading there
      rcases List.infix_cons_iff.1 hinfix with hhere | hlater
      · obtain ⟨hquote, hmarks⟩ := closing_prefix_cons.1 hhere
        have hclosing := closing_prefix_cons.2 ⟨hquote, hmarks.trans hbegins⟩
        exact hopen (List.isPrefixOf_iff_prefix.2 hclosing)
      · exact hnone hlater

/-- A text without a closing is read up to the one put behind it. -/
theorem upToClosing?_append {n : Nat} {cs : List Char} (h : ¬ closing n <:+: cs) :
    upToClosing? n (cs ++ closing n) = some (cs, []) := by
  induction cs with
  | nil =>
    have hall : (marks n).drop n = [] := by simp [marks]
    rw [List.nil_append, closing, upToClosing?, ← closing,
      if_pos (List.isPrefixOf_iff_prefix.2 (List.prefix_refl _)), hall]
  | cons c cs ih =>
    rw [List.infix_cons_iff, not_or] at h
    have hopen : ¬ (closing n).isPrefixOf (c :: (cs ++ closing n)) = true := by
      rw [List.isPrefixOf_iff_prefix, closing_prefix_cons, closing, marks_prefix_append]
      exact fun hhere => h.1 (closing_prefix_cons.2 hhere)
    rw [List.cons_append, upToClosing?, if_neg hopen, ih h.2]
    rfl

/-- The characters of a fenced literal, from the opening fence to the closing one. -/
theorem toList_fencedLiteral (n : Nat) (text : String) :
    (fencedLiteral n text).toList = 'r' :: (marks n ++ '"' :: (text.toList ++ closing n)) := by
  simp [fencedLiteral, closing]

/-- Of a fenced literal only the text has line ends to be unified: the quotes keep what stands
around it apart. -/
theorem unifiedLines_fencedLiteral (n : Nat) (text : String) :
    unifiedLines (fencedLiteral n text).toList =
      'r' :: (marks n ++ '"' :: (unifiedLines text.toList ++ closing n)) := by
  have hopening : '\r' ∉ 'r' :: marks n := by simp [marks]
  have hfence : '\r' ∉ marks n := by simp [marks]
  rw [toList_fencedLiteral, closing, ← List.cons_append, unifiedLines_append_quote,
    unifiedLines_append_quote, unifiedLines_eq_self hopening, unifiedLines_eq_self hfence,
    List.cons_append]

/-- What is read of a fenced literal, once its fence and its opening quote are read. -/
theorem readRawLiteral?_fencedLiteral (n : Nat) (text : String) :
    readRawLiteral? (fencedLiteral n text) =
      match upToClosing? n (unifiedLines text.toList ++ closing n) with
      | some (content, []) =>
        if n ≤ maxMarks ∧ '\r' ∉ content then some (String.ofList content) else none
      | _ => none := by
  have hall : ∀ c ∈ marks n, (c == '#') = true := by simp [marks]
  have hlength : (marks n).length = n := List.length_replicate
  have htake : ((marks n ++ '"' :: (unifiedLines text.toList ++ closing n)).takeWhile
      (· == '#')).length = n := by
    rw [List.takeWhile_append_of_pos hall, List.takeWhile_cons_of_neg (by decide), List.append_nil,
      hlength]
  have hdrop : (marks n ++ '"' :: (unifiedLines text.toList ++ closing n)).dropWhile (· == '#') =
      '"' :: (unifiedLines text.toList ++ closing n) := by
    rw [List.dropWhile_append_of_pos hall, List.dropWhile_cons_of_neg (by decide)]
  rw [readRawLiteral?, unifiedLines_fencedLiteral]
  simp only [htake, hdrop]

/-- **What a raw literal says** has no carriage return in it, and some fence of a legal length that
it does not close. -/
theorem exists_fence_of_readRawLiteral? {literal text : String}
    (h : readRawLiteral? literal = some text) :
    ∃ n ≤ maxMarks, '\r' ∉ text.toList ∧ ¬ closing n <:+: text.toList := by
  unfold readRawLiteral? at h
  split at h
  · dsimp only at h
    split at h
    · split at h
      · rename_i content hread
        split at h
        · rename_i hlegal
          cases h
          rw [String.toList_ofList]
          exact ⟨_, hlegal.1, hlegal.2, (not_infix_of_upToClosing? hread).2⟩
        · cases h
      · cases h
    · cases h
  · cases h

/-- **A fence works** exactly if it is not too long, the text does not close it, and no carriage
return stands in the text. -/
theorem readRawLiteral?_fencedLiteral_iff {n : Nat} {text : String} :
    readRawLiteral? (fencedLiteral n text) = some text ↔
      n ≤ maxMarks ∧ '\r' ∉ text.toList ∧ ¬ closing n <:+: text.toList := by
  rw [readRawLiteral?_fencedLiteral]
  constructor
  · intro h
    split at h
    · rename_i content hread
      split at h
      · rename_i hlegal
        have hcontent : content = text.toList := by
          rw [← Option.some.inj h, String.toList_ofList]
        rw [← hcontent]
        exact ⟨hlegal.1, hlegal.2, (not_infix_of_upToClosing? hread).2⟩
      · cases h
    · cases h
  · rintro ⟨hshort, hreturn, hopen⟩
    rw [unifiedLines_eq_self hreturn, upToClosing?_append hopen]
    dsimp only
    rw [if_pos ⟨hshort, hreturn⟩, String.ofList_toList]

/-- A longer closing begins with every shorter one. -/
theorem closing_infix_of_le {n m : Nat} {cs : List Char} (hle : n ≤ m) (h : closing m <:+: cs) :
    closing n <:+: cs := by
  have hmarks : closing m = closing n ++ marks (m - n) := by
    rw [closing, closing, List.cons_append, marks, marks, marks, List.replicate_append_replicate,
      Nat.add_sub_cancel' hle]
  exact (hmarks ▸ (List.prefix_append _ _).isInfix).trans h

/-- **The texts that a raw literal can say,** whatever its fence: those without a carriage return
that do not close the longest fence. -/
theorem exists_rawLiteral_iff {text : String} :
    (∃ literal, readRawLiteral? literal = some text) ↔
      '\r' ∉ text.toList ∧ ¬ closing maxMarks <:+: text.toList := by
  constructor
  · rintro ⟨literal, hread⟩
    obtain ⟨n, hshort, hreturn, hopen⟩ := exists_fence_of_readRawLiteral? hread
    exact ⟨hreturn, fun hcloses => hopen (closing_infix_of_le hshort hcloses)⟩
  · rintro ⟨hreturn, hopen⟩
    exact ⟨_, readRawLiteral?_fencedLiteral_iff.2 ⟨Nat.le_refl maxMarks, hreturn, hopen⟩⟩

/-! ## The search -/

theorem FenceSearch.unique {cs : List Char} {n found found' : Nat} (h : FenceSearch cs n found)
    (h' : FenceSearch cs n found') : found = found' := by
  induction h with
  | works hworks =>
    cases h' with
    | works => rfl
    | longer hcloses => exact absurd hcloses hworks
  | longer hcloses _ ih =>
    cases h' with
    | works hworks => exact absurd hcloses hworks
    | longer _ next => exact ih next

/-- From any fence that is not too long the search comes to the shortest that works. -/
theorem fenceSearch_of_le {cs : List Char} {n : Nat} (h : n ≤ longestFence cs) :
    FenceSearch cs (n + 1) (longestFence cs + 1) := by
  -- one mark more is tried until the longest run is passed
  induction hgap : longestFence cs - n generalizing n with
  | zero =>
    obtain rfl : n = longestFence cs := by omega
    exact .works fun hcloses => Nat.not_succ_le_self _ ((closing_infix_iff cs).1 hcloses)
  | succ gap ih =>
    have hlonger : n + 1 ≤ longestFence cs := by omega
    exact .longer ((closing_infix_iff cs).2 hlonger) (ih hlonger (by omega))

/-- **The search ends,** and it ends with one mark more than the longest run behind a quote. -/
theorem fenceSearch_iff {cs : List Char} {found : Nat} :
    FenceSearch cs 1 found ↔ found = longestFence cs + 1 := by
  have hends : FenceSearch cs 1 (longestFence cs + 1) := fenceSearch_of_le (Nat.zero_le _)
  exact ⟨fun h => h.unique hends, fun heq => heq ▸ hends⟩

theorem rawLiteral_eq (text : String) :
    rawLiteral text = fencedLiteral (longestFence text.toList + 1) text := rfl

/-- **Text literals say their text,** and a raw one does wherever a raw one can: if there is no
carriage return in the text, and no quote with as many marks behind it as a fence may have.  The
fence is the one that the search ends with, the shortest that the text does not close; of the
fences with at least one mark those work that are no shorter, up to the longest there may be. -/
theorem literals_denote_iff (text : String) :
    readLiteral? (Expr.text text).toText = some text ∧
      (readRawLiteral? (Expr.rawText text).toText = some text ↔
        '\r' ∉ text.toList ∧ ¬ closing maxMarks <:+: text.toList) ∧
      ((∃ literal, readRawLiteral? literal = some text) →
        readRawLiteral? (Expr.rawText text).toText = some text) ∧
      ∃ n, (Expr.rawText text).toText = fencedLiteral n text ∧
        (∀ found, FenceSearch text.toList 1 found ↔ found = n) ∧
        (∀ k, ¬ closing (k + 1) <:+: text.toList ↔ n ≤ k + 1) ∧
        ∀ k, readRawLiteral? (fencedLiteral (k + 1) text) = some text ↔
          n ≤ k + 1 ∧ k + 1 ≤ maxMarks ∧ '\r' ∉ text.toList := by
  have hopen (k : Nat) : ¬ closing (k + 1) <:+: text.toList ↔
      longestFence text.toList + 1 ≤ k + 1 := by
    rw [closing_infix_iff]
    omega
  have hworks (k : Nat) : readRawLiteral? (fencedLiteral (k + 1) text) = some text ↔
      longestFence text.toList + 1 ≤ k + 1 ∧ k + 1 ≤ maxMarks ∧ '\r' ∉ text.toList := by
    rw [readRawLiteral?_fencedLiteral_iff, hopen]
    tauto
  -- the longest legal fence is open exactly if the printed one, which is the shortest open, is legal
  have hprinted : readRawLiteral? (Expr.rawText text).toText = some text ↔
      '\r' ∉ text.toList ∧ ¬ closing maxMarks <:+: text.toList := by
    have hlegal : ¬ closing maxMarks <:+: text.toList ↔
        longestFence text.toList + 1 ≤ maxMarks := hopen 254
    rw [Expr.toText, rawLiteral_eq, hworks, hlegal]
    tauto
  refine ⟨readLiteral?_textLiteral text, hprinted,
    fun hsome => hprinted.2 (exists_rawLiteral_iff.1 hsome), _, ?_, fun _ => fenceSearch_iff,
    hopen, hworks⟩
  rw [Expr.toText, rawLiteral_eq]

example : readRawLiteral? "r#\"say \"#\"#" = none := by decide +kernel
example : readRawLiteral? "r#\"one\r\ntwo\"#" = some "one\ntwo" := by decide +kernel
example : readRawLiteral? "r#\"one\rtwo\"#" = none := by decide +kernel

end ClientForge.Code
