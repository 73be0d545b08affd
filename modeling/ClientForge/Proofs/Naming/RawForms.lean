/-
  Identifiers of one scope, with raw marks taken for nothing.

  Identifiers of one scope are kept apart as texts.  But a raw mark makes no difference to the name that
  an identifier stands for: `r#type_2` and `type_2` are one identifier.  A keyword gets the mark, and
  where it is wished for again, so does the keyword with a number behind it; that is no keyword any
  more, and may be what another key is called without a mark.

  1. **What a key wishes for** (`Wish`).  A keyword with a raw form is wished for in that form.  What any
     other key wishes for has no mark, and has to do with keywords only as far as the key itself does:
     it is neither a keyword with a raw form nor one with a number, unless the snake case of the key is
     (`Unmarked`).
  2. **What is granted.**  A wish in raw form is granted once for each key that is the keyword, with the
     numbers from two on, and nothing comes into its way, because no other wish begins with the mark
     (`not_granted_numbered`, `rawMark_numbered_mem_iff`).
  3. **Where two meet.**  Among texts with the mark all names differ, and so they do among texts without
     it.  Two names that are equal are thus a numbered keyword in raw form and the same without the mark,
     which some key wishes for (`numberTaken_of_granted`).

  So identifiers of one scope stand for different names exactly if no number that a keyword gets is
  taken by a key (`nodup_plainName_iff`).  To tell what begins as a keyword the text in front of the
  first underscore is looked at (`stem`); a number does not change it, and no keyword has an underscore.
-/
import Mathlib.Data.List.Nodup
import ClientForge.Proofs.Naming.FieldNames

namespace ClientForge.Naming

open ClientForge.Text

/-- The name that an identifier stands for. -/
def plainName (ident : String) : String :=
  match ident.toList with
  | 'r' :: '#' :: name => String.ofList name
  | _ => ident

/-- A keyword is the snake case of several keys, and a number that one of them gets makes it the
snake case of another one. -/
def NumberTaken (keys : List String) : Prop :=
  ∃ word n, HasRawForm word ∧ 2 ≤ n ∧ n ≤ (keys.map snakeCase).count word ∧
    word ++ "_" ++ decimalText n ∈ keys.map snakeCase

/-! ## Raw marks -/

/-- The mark is no part of the name. -/
theorem plainName_rawMark (name : String) : plainName (rawMark ++ name) = name := by
  have hmark : (rawMark ++ name).toList = 'r' :: '#' :: name.toList := by
    rw [String.toList_append]
    rfl
  rw [plainName, hmark]
  exact String.ofList_toList

/-- An identifier without the mark is its own name. -/
theorem plainName_eq_self {ident : String} (h : '#' ∉ ident.toList) : plainName ident = ident := by
  unfold plainName
  split
  · rename_i name hmarked
    rw [hmarked] at h
    exact absurd (List.mem_cons_of_mem _ List.mem_cons_self) h
  · rfl

/-! ## Stems -/

/-- The text in front of the first underscore. -/
def stem (name : String) : String := String.ofList (firstPart '_' name.toList)

/-- What follows an underscore does not count. -/
theorem stem_append {name rest : String} (hname : '_' ∉ name.toList)
    (hrest : firstPart '_' rest.toList = []) : stem (name ++ rest) = name := by
  rw [stem, String.toList_append, firstPart_append hname, hrest, List.append_nil,
    String.ofList_toList]

/-- A name without an underscore is its own stem. -/
theorem stem_eq_self {name : String} (h : '_' ∉ name.toList) : stem name = name := by
  have hstem : stem (name ++ "") = name := stem_append h rfl
  rwa [String.append_empty] at hstem

/-- A number does not change the stem. -/
theorem stem_numbered {name : String} (h : '_' ∉ name.toList) (n : Nat) :
    stem (numbered name n) = name := by
  by_cases hn : 2 ≤ n
  · rw [numbered_of_two_le hn, String.append_assoc]
    refine stem_append h ?_
    rw [String.toList_append]
    rfl
  · have hone : numbered name n = name := if_pos (by omega)
    rw [hone, stem_eq_self h]

/-- What grows into a name with a single underscore by a number has none. -/
theorem eq_of_numbered_eq {name wish : String} {m n : Nat} (hname : '_' ∉ name.toList)
    (hm : 2 ≤ m) (hn : 2 ≤ n) (h : numbered wish m = numbered name n) : wish = name := by
  have hdigits (k : Nat) : (decimalText k).toList.count '_' = 0 :=
    List.count_eq_zero.2 (not_mem_decimalText rfl k)
  have hcount := congrArg (fun text => text.toList.count '_') h
  simp only [toList_numbered hm, toList_numbered hn, List.count_append, List.count_cons_self,
    hdigits, List.count_eq_zero.2 hname] at hcount
  have hwish : '_' ∉ wish.toList := List.count_eq_zero.1 (by omega)
  rw [← stem_numbered hwish m, h, stem_numbered hname]

/-- A number brings no mark. -/
theorem mark_not_mem_numbered {wish : String} (h : '#' ∉ wish.toList) (n : Nat) :
    '#' ∉ (numbered wish n).toList := by
  by_cases hn : 2 ≤ n
  · rw [toList_numbered hn, List.mem_append, List.mem_cons]
    rintro (hmem | hmem | hmem)
    · exact h hmem
    · cases hmem
    · exact not_mem_decimalText rfl n hmem
  · have hone : numbered wish n = wish := if_pos (by omega)
    rwa [hone]

/-- A raw form with a number is the raw form of the numbered name. -/
theorem numbered_rawMark (word : String) (n : Nat) :
    numbered (rawMark ++ word) n = rawMark ++ numbered word n := by
  unfold numbered
  split
  · rfl
  · simp only [String.append_assoc]

/-- A keyword is its own stem. -/
theorem HasRawForm.stem_eq {word : String} (h : HasRawForm word) : stem word = word :=
  stem_eq_self (underscore_not_mem_keyword h.1)

/-- With a number it keeps its stem. -/
theorem HasRawForm.stem_numbered {word : String} (h : HasRawForm word) (n : Nat) :
    stem (numbered word n) = word :=
  Naming.stem_numbered (underscore_not_mem_keyword h.1) n

/-- A keyword has no mark. -/
theorem HasRawForm.no_mark {word : String} (h : HasRawForm word) : '#' ∉ word.toList := by
  have hall : ∀ word ∈ keywords, '#' ∉ word.toList := by decide
  exact hall word h.1

/-! ## Wishes -/

/-- The identifier is no keyword with a raw form, nor is the key, and either both are one with a
number or none of them. -/
structure Unmarked (key ident : String) : Prop where
  no_mark : '#' ∉ ident.toList
  not_word : ¬ HasRawForm ident
  key_not_word : ¬ HasRawForm (snakeCase key)
  numbered_iff : ∀ word n, HasRawForm word → 2 ≤ n →
    (ident = numbered word n ↔ snakeCase key = numbered word n)

/-- `Wish key ident` — what a key may wish for: its snake case in raw form, if that is a keyword
that has one, else an identifier that has to do with such a keyword only as far as the key has. -/
inductive Wish (key : String) : String → Prop
  | raw (h : HasRawForm (snakeCase key)) : Wish key (rawMark ++ snakeCase key)
  | unmarked {ident : String} (h : Unmarked key ident) : Wish key ident

/-- Snake case has no mark. -/
theorem mark_not_mem_snakeCase (key : String) : '#' ∉ (snakeCase key).toList := by
  intro hmem
  have hchar := (snakeShaped_snakeCase key).chars _ hmem
  revert hchar
  decide

/-- What does not begin as a keyword is none. -/
theorem not_hasRawForm_of_stem {name : String} (h : ¬ HasRawForm (stem name)) :
    ¬ HasRawForm name := fun hraw => h (hraw.stem_eq.symm ▸ hraw)

/-- Nor is it one with a number. -/
theorem ne_numbered_of_stem {name word : String} (h : ¬ HasRawForm (stem name))
    (hword : HasRawForm word) (n : Nat) : name ≠ numbered word n := by
  rintro rfl
  exact h (by rwa [hword.stem_numbered])

/-- A key and an identifier neither of which begins as a keyword with a raw form. -/
theorem Unmarked.of_stem {key ident : String} (hmark : '#' ∉ ident.toList)
    (hident : ¬ HasRawForm (stem ident)) (hkey : ¬ HasRawForm (stem (snakeCase key))) :
    Unmarked key ident where
  no_mark := hmark
  not_word := not_hasRawForm_of_stem hident
  key_not_word := not_hasRawForm_of_stem hkey
  numbered_iff := fun _ n hword _ => iff_of_false (ne_numbered_of_stem hident hword n)
    (ne_numbered_of_stem hkey hword n)

/-- A key that is no keyword wishes for its snake case without a mark. -/
theorem unmarked_snakeCase {key : String} (h : ¬ HasRawForm (snakeCase key)) :
    Unmarked key (snakeCase key) where
  no_mark := mark_not_mem_snakeCase key
  not_word := h
  key_not_word := h
  numbered_iff := fun _ _ _ _ => Iff.rfl

/-- No keyword begins with a digit. -/
theorem not_hasRawForm_of_digit {name : String} {c : Char} {cs : List Char}
    (hname : name.toList = c :: cs) (hdigit : c.isDigit = true) : ¬ HasRawForm (stem name) := by
  rintro ⟨hkeyword, -⟩
  have hne : c ≠ '_' := by
    rintro rfl
    cases hdigit
  have hall : ∀ word ∈ keywords, word.toList.head?.all (!·.isDigit) := by decide
  have hfirst := hall (stem name) hkeyword
  rw [stem, String.toList_ofList, hname, firstPart, List.takeWhile_cons_of_pos (by simpa using hne),
    List.head?_cons, Option.all_some, hdigit] at hfirst
  cases hfirst

/-- **What a key gets it may wish for.** -/
theorem wish_fieldIdent {key ident : String} (h : fieldIdent key = .ok ident) : Wish key ident := by
  have hmark := mark_not_mem_snakeCase key
  cases identFor_of_fieldIdent h with
  | @digit c cs hchars hdigit =>
    refine .unmarked (.of_stem ?_ ?_ (not_hasRawForm_of_digit hchars hdigit))
    · rw [String.toList_append]
      exact fun hmem => (List.mem_append.1 hmem).elim (by decide) hmark
    · have hempty : stem ("_" ++ snakeCase key) = "" := by
        rw [stem, String.toList_append]
        rfl
      rw [hempty]
      decide
  | bare hbare =>
    have hunderscore : '_' ∉ (snakeCase key).toList :=
      underscore_not_mem_keyword (bareKeywords_subset hbare)
    have hnot : ¬ HasRawForm (snakeCase key) := fun hraw => hraw.2 hbare
    refine .unmarked (.of_stem ?_ ?_ (by rwa [stem_eq_self hunderscore]))
    · rw [String.toList_append]
      exact fun hmem => (List.mem_append.1 hmem).elim hmark (by decide)
    · rwa [stem_append hunderscore (by rfl)]
  | raw hraw => exact .raw hraw
  | plain hidentifier hkeyword => exact .unmarked (unmarked_snakeCase fun hraw => hkeyword hraw.1)

/-- A key that gets nothing may wish for whatever begins as no keyword. -/
theorem wish_of_fieldIdent_error {key ident : String} {cause : NamingError}
    (h : fieldIdent key = .error cause) (hmark : '#' ∉ ident.toList)
    (hident : ¬ HasRawForm (stem ident)) : Wish key ident := by
  have hempty := (snakeCase_of_fieldIdent_error h).1
  exact .unmarked (.of_stem hmark hident (by rw [hempty]; decide))

namespace Wish

variable {key ident word : String}

/-- Only the keyword itself is wished for in raw form. -/
theorem eq_rawMark_iff (h : Wish key ident) (hword : HasRawForm word) :
    ident = rawMark ++ word ↔ snakeCase key = word := by
  cases h with
  | raw hraw => exact String.append_right_inj rawMark
  | unmarked h =>
    refine iff_of_false (fun heq => ?_) (fun heq => h.key_not_word (heq ▸ hword))
    exact h.no_mark (heq ▸ mark_mem_rawMark word)

/-- Only a numbered keyword is wished for as one. -/
theorem eq_numbered_iff (h : Wish key ident) (hword : HasRawForm word) {n : Nat} (hn : 2 ≤ n) :
    ident = numbered word n ↔ snakeCase key = numbered word n := by
  cases h with
  | unmarked h => exact h.numbered_iff word n hword hn
  | raw hraw =>
    refine iff_of_false (fun heq => ?_) (fun heq => ?_)
    · exact mark_not_mem_numbered hword.no_mark n (heq ▸ mark_mem_rawMark _)
    · apply underscore_not_mem_keyword hraw.1
      rw [heq, toList_numbered hn]
      exact List.mem_append_right _ List.mem_cons_self

/-- **No wish is granted what another keyword in raw form is.** -/
theorem not_granted_numbered (h : Wish key ident) (hword : HasRawForm word)
    (hne : ident ≠ rawMark ++ word) (m : Nat) : ¬ Granted ident (numbered (rawMark ++ word) m) := by
  rintro ⟨n, -, heq⟩
  rw [numbered_rawMark] at heq
  cases h with
  | raw hraw =>
    rw [numbered_rawMark, String.append_right_inj] at heq
    have hstem := congrArg stem heq
    rw [hword.stem_numbered, hraw.stem_numbered] at hstem
    exact hne (by rw [hstem])
  | unmarked h => exact mark_not_mem_numbered h.no_mark n (heq ▸ mark_mem_rawMark _)

/-- What a wish is granted is a keyword in raw form, a number behind it perhaps, or has no mark. -/
theorem granted_cases {granted : String} (h : Wish key ident) (hgranted : Granted ident granted) :
    (∃ word n, HasRawForm word ∧ 1 ≤ n ∧ granted = rawMark ++ numbered word n) ∨
      (Unmarked key ident ∧ '#' ∉ granted.toList) := by
  obtain ⟨n, hn, rfl⟩ := hgranted
  cases h with
  | raw hraw => exact Or.inl ⟨_, n, hraw, hn, numbered_rawMark _ n⟩
  | unmarked h => exact Or.inr ⟨h, mark_not_mem_numbered h.no_mark n⟩

end Wish

/-! ## One scope -/

section Scope

variable {keys wishes : List String} {word : String}

/-- A keyword in raw form is wished for as often as it is a key. -/
theorem count_wishes (h : List.Forall₂ Wish keys wishes) (hword : HasRawForm word) :
    wishes.count (rawMark ++ word) = (keys.map snakeCase).count word := by
  induction h with
  | nil => rfl
  | @cons key wish keys wishes hwish _ ih =>
    rw [List.map_cons, List.count_cons, List.count_cons, ih]
    simp only [beq_iff_eq, hwish.eq_rawMark_iff hword]

/-- A numbered keyword is wished for if it is a key. -/
theorem numbered_mem_wishes_iff (h : List.Forall₂ Wish keys wishes) (hword : HasRawForm word)
    {n : Nat} (hn : 2 ≤ n) : numbered word n ∈ wishes ↔ numbered word n ∈ keys.map snakeCase := by
  induction h with
  | nil => rfl
  | @cons key wish keys wishes hwish _ ih =>
    rw [List.map_cons, List.mem_cons, List.mem_cons, ih, eq_comm, hwish.eq_numbered_iff hword hn,
      eq_comm]

/-- **How often a keyword is granted in raw form:** once for each key that is it. -/
theorem rawMark_numbered_mem_iff (h : List.Forall₂ Wish keys wishes) (hword : HasRawForm word)
    {n : Nat} (hn : 1 ≤ n) : rawMark ++ numbered word n ∈ Names.empty.claimIdents wishes ↔
      n ≤ (keys.map snakeCase).count word := by
  have hnone : ∀ m, 1 ≤ m → (numbered (rawMark ++ word) m ∈ Names.empty ↔ m ≤ 0) :=
    fun m hm => iff_of_false Names.not_mem_empty (by omega)
  have hapart : ∀ wish ∈ wishes, wish ≠ rawMark ++ word → ∀ m, 1 ≤ m →
      ¬ Granted wish (numbered (rawMark ++ word) m) := by
    intro wish hwish hne m _
    obtain ⟨key, -, hkey⟩ := exists_of_mem_right h hwish
    exact hkey.not_granted_numbered hword hne m
  rw [← numbered_rawMark, Names.mem_claimIdents_numbered hnone hapart hn, count_wishes h hword]
  omega

/-- A numbered keyword that is granted beside its raw form is the snake case of a key. -/
theorem numberTaken_of_granted (h : List.Forall₂ Wish keys wishes) (hword : HasRawForm word)
    {n : Nat} (hn : 1 ≤ n) (hmem : rawMark ++ numbered word n ∈ Names.empty.claimIdents wishes)
    {key wish : String} (hkey : key ∈ keys) (hwish : Unmarked key wish)
    (hgranted : Granted wish (numbered word n)) : NumberTaken keys := by
  have hunderscore := underscore_not_mem_keyword hword.1
  obtain ⟨m, hm, heq⟩ := hgranted
  -- neither is without a number, and the wish is not numbered, or it were the keyword
  have hn2 : 2 ≤ n := by
    apply Classical.byContradiction
    intro hless
    obtain rfl : n = 1 := by omega
    rw [numbered_one] at heq
    by_cases hm2 : 2 ≤ m
    · rw [heq, toList_numbered hm2] at hunderscore
      exact hunderscore (List.mem_append_right _ List.mem_cons_self)
    · obtain rfl : m = 1 := by omega
      rw [numbered_one] at heq
      exact hwish.not_word (heq ▸ hword)
  have hm1 : m = 1 := by
    apply Classical.byContradiction
    intro hmore
    have hsame : wish = word := eq_of_numbered_eq hunderscore (by omega) hn2 heq.symm
    exact hwish.not_word (hsame ▸ hword)
  rw [hm1, numbered_one] at heq
  have hsnake := (hwish.numbered_iff word n hword hn2).1 heq.symm
  refine ⟨word, n, hword, hn2, (rawMark_numbered_mem_iff h hword hn).1 hmem, ?_⟩
  rw [← numbered_of_two_le hn2, ← hsnake]
  exact List.mem_map_of_mem hkey

/-- **Identifiers of one scope stand for different names** exactly if no number that a keyword gets
is taken. -/
theorem nodup_plainName_iff (h : List.Forall₂ Wish keys wishes) :
    ((Names.empty.claimIdents wishes).map plainName).Nodup ↔ ¬ NumberTaken keys := by
  constructor
  · -- the keyword with the number is granted in raw form and as it is
    rintro hnodup ⟨word, n, hword, hn, hcount, htaken⟩
    rw [← numbered_of_two_le hn, ← numbered_mem_wishes_iff h hword hn] at htaken
    have hraw := (rawMark_numbered_mem_iff h hword (by omega)).2 hcount
    have hplain := (Names.mem_claimIdents_of_mem htaken .empty).resolve_left Names.not_mem_empty
    have hmark := mark_not_mem_numbered hword.no_mark n
    have hsame := List.inj_on_of_nodup_map hnodup hraw hplain
      (by rw [plainName_rawMark, plainName_eq_self hmark])
    exact hmark (hsame ▸ mark_mem_rawMark _)
  · intro hfree
    apply (Names.claimIdents_nodup .empty wishes).map_on
    intro first hfirst second hsecond hsame
    obtain ⟨wish, hwish, hgranted⟩ := Names.exists_granted hfirst
    obtain ⟨wish', hwish', hgranted'⟩ := Names.exists_granted hsecond
    obtain ⟨key, hkey, hkeyWish⟩ := exists_of_mem_right h hwish
    obtain ⟨key', hkey', hkeyWish'⟩ := exists_of_mem_right h hwish'
    rcases hkeyWish.granted_cases hgranted with ⟨word, n, hword, hn, rfl⟩ | ⟨hunmarked, hnone⟩
    · rw [plainName_rawMark] at hsame
      rcases hkeyWish'.granted_cases hgranted' with ⟨word', n', -, -, rfl⟩ | ⟨hunmarked', hnone'⟩
      · rw [hsame, plainName_rawMark]
      · rw [plainName_eq_self hnone'] at hsame
        rw [← hsame] at hgranted'
        exact absurd (numberTaken_of_granted h hword hn hfirst hkey' hunmarked' hgranted') hfree
    · rw [plainName_eq_self hnone] at hsame
      rcases hkeyWish'.granted_cases hgranted' with ⟨word', n', hword', hn', rfl⟩ | ⟨-, hnone'⟩
      · rw [plainName_rawMark] at hsame
        rw [hsame] at hgranted
        exact absurd (numberTaken_of_granted h hword' hn' hsecond hkey hunmarked hgranted) hfree
      · rwa [plainName_eq_self hnone'] at hsame

end Scope

end ClientForge.Naming
