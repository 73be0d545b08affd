/-
  A name that is handed out is free.

  Names are kept apart in two ways, and both try the name wished for and then variants of it: type
  names go on with a number, identifiers with an underscore and a number.  What is shown here holds of
  any variants that differ from one another.

  * The search for a variant looks at one more candidate than there are names taken.  Variants that
    differ cannot all be taken then (`exists_free_variant`), so the search succeeds, and it finds the
    first free one (`freeVariant_spec`).
  * Both kinds of variants differ because decimal numbers do (`decimalText_injective`).

  For a row of wishes that are granted one after the other more is to be said.  Each is granted, itself
  or with a number (`granted_claimIdents`), and what is granted differs (`claimIdents_nodup`).  An
  identifier that is wished for several times gets the numbers from two on, in their order, unless
  another wish comes into its way (`mem_claimIdents_numbered`): the induction is along the row and
  carries how often the wish has been granted so far, which is all that the names taken have to say
  about it as long as no other wish ends with the same identifier.  That condition is the crux; `a_2`
  may itself be wished for, and then `a` has to go on to the next number.
-/
import Mathlib.Data.List.Forall2
import ClientForge.Naming.Claims

namespace ClientForge

/-- Numbers that differ are written differently. -/
theorem decimalText_injective {m n : Nat} (h : decimalText m = decimalText n) : m = n := by
  have hdigits : Nat.toDigits 10 m = Nat.toDigits 10 n := String.ofList_injective h
  rw [← Nat.ofDigitChars_ten_toDigits (n := m), hdigits, Nat.ofDigitChars_ten_toDigits]

/-- A number is written in digits. -/
theorem isDigit_of_mem_decimalText {n : Nat} {c : Char} (h : c ∈ (decimalText n).toList) :
    c.isDigit = true := by
  rw [decimalText, String.toList_ofList] at h
  exact Nat.isDigit_of_mem_toDigits (by decide) (by decide) h

/-- Nothing but digits is in it. -/
theorem not_mem_decimalText {c : Char} (hc : c.isDigit = false) (n : Nat) :
    c ∉ (decimalText n).toList := by
  intro hmem
  rw [isDigit_of_mem_decimalText hmem] at hc
  cases hc

/-- The variants of a type name differ. -/
theorem typeVariant_injective (preferred : String) {m n : Nat}
    (h : preferred ++ decimalText m = preferred ++ decimalText n) : m = n :=
  decimalText_injective (String.append_right_inj preferred |>.1 h)

/-- The variants of an identifier differ. -/
theorem identVariant_injective (preferred : String) {m n : Nat}
    (h : preferred ++ "_" ++ decimalText m = preferred ++ "_" ++ decimalText n) : m = n :=
  typeVariant_injective (preferred ++ "_") h

/-! ## Numbered identifiers -/

/-- What a wish for an identifier is granted the n-th time. -/
def numbered (wish : String) (n : Nat) : String :=
  if n ≤ 1 then wish else wish ++ "_" ++ decimalText n

/-- `Granted wish ident` — the identifier is the one wished for, or that one with a number. -/
def Granted (wish ident : String) : Prop := ∃ n, 1 ≤ n ∧ ident = numbered wish n

/-- The first time a wish is granted as it is. -/
@[simp] theorem numbered_one (wish : String) : numbered wish 1 = wish := rfl

/-- Later it gets a number. -/
theorem numbered_of_two_le {n : Nat} (h : 2 ≤ n) (wish : String) :
    numbered wish n = wish ++ "_" ++ decimalText n := if_neg (by omega)

/-- The characters of a wish with a number. -/
theorem toList_numbered {n : Nat} (h : 2 ≤ n) (wish : String) :
    (numbered wish n).toList = wish.toList ++ '_' :: (decimalText n).toList := by
  rw [numbered_of_two_le h, String.toList_append, String.toList_append, List.append_assoc]
  rfl

/-- A wish is granted something else each time. -/
theorem numbered_injective {wish : String} {m n : Nat} (hm : 1 ≤ m) (hn : 1 ≤ n)
    (h : numbered wish m = numbered wish n) : m = n := by
  have hlonger {k : Nat} (hk : 2 ≤ k) : wish.toList ≠ (numbered wish k).toList := by
    intro heq
    have hlength := congrArg List.length heq
    rw [toList_numbered hk, List.length_append, List.length_cons] at hlength
    omega
  by_cases hm2 : 2 ≤ m
  · by_cases hn2 : 2 ≤ n
    · rw [numbered_of_two_le hm2, numbered_of_two_le hn2] at h
      exact identVariant_injective wish h
    · obtain rfl : n = 1 := by omega
      exact absurd (congrArg String.toList h.symm) (hlonger hm2)
  · obtain rfl : m = 1 := by omega
    by_cases hn2 : 2 ≤ n
    · exact absurd (congrArg String.toList h) (hlonger hn2)
    · omega

/-- A member of the second row has its counterpart in the first one. -/
theorem exists_of_mem_right {α β : Type} {related : α → β → Prop} {xs : List α} {ys : List β}
    (h : List.Forall₂ related xs ys) {y : β} (hy : y ∈ ys) : ∃ x ∈ xs, related x y := by
  induction h with
  | nil => cases hy
  | @cons x first xs ys hrelated _ ih =>
    rcases List.mem_cons.1 hy with rfl | hy
    · exact ⟨x, List.mem_cons_self, hrelated⟩
    · obtain ⟨other, hother, hrelated⟩ := ih hy
      exact ⟨other, List.mem_cons_of_mem _ hother, hrelated⟩

namespace Names

/-! ## Variants -/

/-- Variants that differ run out of names taken. -/
theorem le_of_variants_mem (taken : Names) {variant : Nat → String}
    (hinj : ∀ {m n}, variant m = variant n → m = n) {n : Nat}
    (h : ∀ m, 2 ≤ m → m < n → variant m ∈ taken) : n ≤ taken.size + 2 := by
  have hsub : (List.range' 2 (n - 2)).map variant ⊆ taken.toList := by
    intro x hx
    obtain ⟨m, hm, rfl⟩ := List.mem_map.1 hx
    obtain ⟨hle, hlt⟩ := List.mem_range'_1.1 hm
    exact h m hle (by omega)
  have hnodup : ((List.range' 2 (n - 2)).map variant).Nodup :=
    List.pairwise_map.2 ((List.nodup_range' 1).imp fun hne heq => hne (hinj heq))
  have hle : n - 2 ≤ taken.size := by
    have hlength := hnodup.length_le_of_subset hsub
    rwa [List.length_map, List.length_range'] at hlength
  omega

/-- Of variants that differ, one is free among one more than there are names taken. -/
theorem exists_free_variant (taken : Names) {variant : Nat → String}
    (hinj : ∀ {m n}, variant m = variant n → m = n) :
    ∃ n ∈ List.range' 2 (taken.size + 1), variant n ∉ taken := by
  apply Classical.byContradiction
  intro hall
  have hle : taken.size + 3 ≤ taken.size + 2 := by
    refine taken.le_of_variants_mem hinj fun m hm hlt => Classical.byContradiction fun hfree => ?_
    exact hall ⟨m, List.mem_range'_1.2 ⟨hm, by omega⟩, hfree⟩
  omega

/-- **The first free variant:** it is free, and every variant before it is taken. -/
theorem freeVariant_spec (taken : Names) {variant : Nat → String}
    (hinj : ∀ {m n}, variant m = variant n → m = n) :
    ∃ n, 2 ≤ n ∧ taken.freeVariant variant = variant n ∧ variant n ∉ taken ∧
      ∀ m, 2 ≤ m → m < n → variant m ∈ taken := by
  unfold freeVariant
  cases hfind : (List.range' 2 (taken.size + 1)).find? fun n => !taken.contains (variant n) with
  | none =>
    obtain ⟨n, hn, hfree⟩ := taken.exists_free_variant hinj
    have htaken := List.find?_eq_none.1 hfind n hn
    simp [hfree] at htaken
  | some n =>
    obtain ⟨hfree, hn, hfirst⟩ := List.find?_range'_eq_some.1 hfind
    have hnot : variant n ∉ taken := by
      intro hmem
      simp [contains_iff.2 hmem] at hfree
    refine ⟨n, (List.mem_range'_1.1 hn).1, rfl, hnot, fun m hm hlt => ?_⟩
    simpa using hfirst m hm hlt

/-- **What a wish gets:** itself if it is free, else its first free variant. -/
theorem freeName_spec (taken : Names) (preferred : String) {variant : Nat → String}
    (hinj : ∀ {m n}, variant m = variant n → m = n) :
    (preferred ∉ taken ∧ taken.freeName preferred variant = preferred) ∨
    (preferred ∈ taken ∧ ∃ n, 2 ≤ n ∧ taken.freeName preferred variant = variant n ∧
      variant n ∉ taken ∧ ∀ m, 2 ≤ m → m < n → variant m ∈ taken) := by
  by_cases h : preferred ∈ taken
  · have hname : taken.freeName preferred variant = taken.freeVariant variant := by
      simp [freeName, h]
    rw [hname]
    exact Or.inr ⟨h, taken.freeVariant_spec hinj⟩
  · exact Or.inl ⟨h, freeName_of_not_mem h⟩

/-- What a wish gets was free. -/
theorem freeName_not_mem (taken : Names) (preferred : String) {variant : Nat → String}
    (hinj : ∀ {m n}, variant m = variant n → m = n) :
    taken.freeName preferred variant ∉ taken := by
  rcases taken.freeName_spec preferred hinj with ⟨hfree, heq⟩ | ⟨-, n, -, heq, hfree, -⟩
  · rwa [heq]
  · rwa [heq]

/-! ## Claims -/

/-- **A claimed name was free.** -/
theorem claim_not_mem (taken : Names) (preferred : String) :
    (taken.claim preferred).1 ∉ taken :=
  taken.freeName_not_mem preferred (typeVariant_injective preferred)

/-- A free identifier was free. -/
theorem freeIdent_not_mem (taken : Names) (preferred : String) :
    taken.freeIdent preferred ∉ taken :=
  taken.freeName_not_mem preferred (identVariant_injective preferred)

/-- It is the one wished for, or that one with a number. -/
theorem granted_freeIdent (taken : Names) (wish : String) :
    Granted wish (taken.freeIdent wish) := by
  rcases taken.freeName_spec wish (identVariant_injective wish) with
    ⟨-, heq⟩ | ⟨-, n, hn, heq, -⟩
  · exact ⟨1, Nat.le_refl 1, heq⟩
  · exact ⟨n, Nat.le_of_succ_le hn, by rw [numbered_of_two_le hn]; exact heq⟩

/-! ## Rows of identifiers -/

/-- There is one identifier for each wish. -/
@[simp] theorem length_claimIdents (taken : Names) (wishes : List String) :
    (taken.claimIdents wishes).length = wishes.length := by
  induction wishes generalizing taken with
  | nil => rfl
  | cons preferred rest ih => simp [claimIdents, ih]

/-- The identifiers of a row were all free. -/
theorem not_mem_of_mem_claimIdents {taken : Names} {wishes : List String} {ident : String}
    (h : ident ∈ taken.claimIdents wishes) : ident ∉ taken := by
  induction wishes generalizing taken with
  | nil => cases h
  | cons preferred rest ih =>
    rcases List.mem_cons.1 h with rfl | h
    · exact taken.freeIdent_not_mem preferred
    · intro hmem
      exact ih h (mem_insert.2 (Or.inr hmem))

/-- **The identifiers of a row differ.** -/
theorem claimIdents_nodup (taken : Names) (wishes : List String) :
    (taken.claimIdents wishes).Nodup := by
  induction wishes generalizing taken with
  | nil => exact List.nodup_nil
  | cons preferred rest ih =>
    refine List.nodup_cons.2 ⟨fun hmem => ?_, ih _⟩
    exact not_mem_of_mem_claimIdents hmem (mem_insert.2 (Or.inl rfl))

/-- **Each wish of a row is granted,** in their order. -/
theorem granted_claimIdents (taken : Names) (wishes : List String) :
    List.Forall₂ Granted wishes (taken.claimIdents wishes) := by
  induction wishes generalizing taken with
  | nil => exact .nil
  | cons wish rest ih => exact .cons (taken.granted_freeIdent wish) (ih _)

/-- Each of them is granted to some wish. -/
theorem exists_granted {taken : Names} {wishes : List String} {ident : String}
    (h : ident ∈ taken.claimIdents wishes) : ∃ wish ∈ wishes, Granted wish ident :=
  exists_of_mem_right (taken.granted_claimIdents wishes) h

/-- Each of them is a wish, or a wish with a number. -/
theorem claimIdents_eq {taken : Names} {wishes : List String} {ident : String}
    (h : ident ∈ taken.claimIdents wishes) :
    ∃ wish ∈ wishes, ident = wish ∨ ∃ n, ident = wish ++ "_" ++ decimalText n := by
  obtain ⟨wish, hwish, n, -, heq⟩ := exists_granted h
  refine ⟨wish, hwish, ?_⟩
  unfold numbered at heq
  split at heq
  · exact Or.inl heq
  · exact Or.inr ⟨n, heq⟩

/-- Every identifier wished for is in use in the end. -/
theorem mem_claimIdents_of_mem {wishes : List String} {wish : String} (h : wish ∈ wishes)
    (taken : Names) : wish ∈ taken ∨ wish ∈ taken.claimIdents wishes := by
  induction wishes generalizing taken with
  | nil => cases h
  | cons first rest ih =>
    rw [claimIdents, List.mem_cons]
    rcases List.mem_cons.1 h with rfl | h
    · by_cases hmem : wish ∈ taken
      · exact Or.inl hmem
      · exact Or.inr (Or.inl (freeName_of_not_mem hmem).symm)
    · rcases ih h (taken.insert (taken.freeIdent first)) with htaken | hrest
      · exact (mem_insert.1 htaken).elim (fun heq => Or.inr (Or.inl heq)) Or.inl
      · exact Or.inr (Or.inr hrest)

/-! ## Numbers in a row -/

/-- What a wish is granted when it has been granted `k` times. -/
theorem freeIdent_eq_numbered {taken : Names} {wish : String} {k : Nat}
    (htaken : ∀ m, 1 ≤ m → (numbered wish m ∈ taken ↔ m ≤ k)) :
    taken.freeIdent wish = numbered wish (k + 1) := by
  have hwish := htaken 1 (Nat.le_refl 1)
  rw [numbered_one] at hwish
  rcases taken.freeName_spec wish (identVariant_injective wish) with
    ⟨hfree, heq⟩ | ⟨hmem, n, hn, heq, hfree, hfirst⟩
  · have hnone : k = 0 := by
      have hnot : ¬ 1 ≤ k := fun hle => hfree (hwish.2 hle)
      omega
    rw [hnone]
    exact heq
  · -- all numbers below the one found are taken, and it is not
    have hk : 1 ≤ k := hwish.1 hmem
    rw [← numbered_of_two_le hn, htaken n (by omega)] at hfree
    have hbelow : n ≤ k + 1 := by
      by_cases hn2 : n = 2
      · omega
      · have hlast := hfirst (n - 1) (by omega) (by omega)
        rw [← numbered_of_two_le (by omega), htaken (n - 1) (by omega)] at hlast
        omega
    obtain rfl : n = k + 1 := by omega
    rw [numbered_of_two_le hn]
    exact heq

/-- **The numbers of a wish** go on from those that it has been granted already, one for each time
that it stands in the row, where no other wish is granted any of them. -/
theorem mem_claimIdents_numbered {taken : Names} {wishes : List String} {base : String} {k n : Nat}
    (htaken : ∀ m, 1 ≤ m → (numbered base m ∈ taken ↔ m ≤ k))
    (hapart : ∀ wish ∈ wishes, wish ≠ base → ∀ m, 1 ≤ m → ¬ Granted wish (numbered base m))
    (hn : 1 ≤ n) :
    numbered base n ∈ taken.claimIdents wishes ↔ k < n ∧ n ≤ k + wishes.count base := by
  -- The invariant carried along is that exactly the first k numbered forms are taken.
  induction wishes generalizing taken k with
  | nil =>
    rw [claimIdents, List.count_nil]
    exact iff_of_false List.not_mem_nil (by omega)
  | cons wish rest ih =>
    obtain ⟨hwish, hrest⟩ := List.forall_mem_cons.1 hapart
    rw [claimIdents, List.mem_cons]
    -- A wish for the base gets the next form, and the invariant moves up by one.
    by_cases heq : wish = base
    · subst heq
      have hident := freeIdent_eq_numbered htaken
      have hnext : ∀ m, 1 ≤ m →
          (numbered wish m ∈ taken.insert (numbered wish (k + 1)) ↔ m ≤ k + 1) := by
        intro m hm
        rw [mem_insert, htaken m hm]
        constructor
        · rintro (heq | hle)
          · exact Nat.le_of_eq (numbered_injective hm (by omega) heq)
          · omega
        · intro hle
          by_cases hlast : m = k + 1
          · exact Or.inl (by rw [hlast])
          · exact Or.inr (by omega)
      have hfirst : numbered wish n = numbered wish (k + 1) ↔ n = k + 1 :=
        ⟨numbered_injective hn (by omega), fun heq => by rw [heq]⟩
      rw [hident, ih hnext hrest, hfirst, List.count_cons_self]
      omega
    · -- Another wish gets no numbered form of the base, and the invariant stays.
      have hother : ∀ m, 1 ≤ m → numbered base m ≠ taken.freeIdent wish := by
        intro m hm hsame
        exact hwish heq m hm (hsame ▸ taken.granted_freeIdent wish)
      have hnext : ∀ m, 1 ≤ m →
          (numbered base m ∈ taken.insert (taken.freeIdent wish) ↔ m ≤ k) := by
        intro m hm
        rw [mem_insert, htaken m hm]
        exact or_iff_right (hother m hm)
      rw [ih hnext hrest, List.count_cons_of_ne heq]
      exact or_iff_right (hother n hn)

end Names

end ClientForge
