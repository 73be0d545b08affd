/-
  A text comes back from its octets.

  Octets are read by a machine that either stands between two characters or owes some octets of one.
  The first octet of a character tells it how many are owed, what the next one may be, and the digits
  that it has itself (`beginOctet_two` and the like); every further octet adds six bits to the number
  read so far.

  For a text that was encoded the machine must never refuse.  The bounds on the second octet are there
  to refuse what is no character: numbers that have a shorter form, surrogates, and what is beyond
  Unicode.  They refuse just that, so for the octets of a character every bound is kept
  (`readOctets_three`, `readOctets_four`), and at the last octet the number is the character's
  (`readOctets_utf8EncodeChar`).

  The proof goes by the number of octets, with the digits of the character to base 64 as numbers; what
  is left is arithmetic.  The statement about one character is for any octets behind it, so a text is an
  induction on its characters (`readOctets_utf8`).
-/
import ClientForge.Text.Utf8

namespace ClientForge.Text

/-! ## The first octet -/

/-- The first octet of two. -/
theorem beginOctet_two : ∀ digit < 32, 2 ≤ digit →
    beginOctet (digit + 0xC0) = ([], some ⟨1, 0x80, 0xBF, digit⟩) := by
  decide

/-- The first octet of three: the second may not make a shorter form or a surrogate. -/
theorem beginOctet_three : ∀ digit < 16, beginOctet (digit + 0xE0) =
    ([], some ⟨2, if digit = 0 then 0xA0 else 0x80, if digit = 13 then 0x9F else 0xBF, digit⟩) := by
  decide

/-- The first octet of four: the second may not make a shorter form or go beyond Unicode. -/
theorem beginOctet_four : ∀ digit < 5, beginOctet (digit + 0xF0) =
    ([], some ⟨3, if digit = 0 then 0x90 else 0x80, if digit = 4 then 0x8F else 0xBF, digit⟩) := by
  decide

/-- An octet of its own is a character. -/
theorem readOctets_ascii {n : Nat} (hn : n < 0x80) (octets : List UInt8) :
    readOctets none (UInt8.ofNat n :: octets) = some (Char.ofNat n) :: readOctets none octets := by
  have hoctet : n < 256 := by omega
  rw [readOctets, UInt8.toNat_ofNat_of_lt' hoctet, stepOctet, beginOctet, if_pos hn]
  rfl

/-- After a first octet others are owed. -/
theorem readOctets_begin {n : Nat} {state : Unfinished} (hn : n < 256)
    (hbegin : beginOctet n = ([], some state)) (octets : List UInt8) :
    readOctets none (UInt8.ofNat n :: octets) = readOctets (some state) octets := by
  rw [readOctets, UInt8.toNat_ofNat_of_lt' hn, stepOctet, hbegin]
  rfl

/-! ## The octets owed -/

section Owed

variable {low high value digit : Nat}

/-- An octet that is owed adds its digits. -/
theorem readOctets_owed {owed : Nat} (hdigit : digit < 64) (hlow : low ≤ digit + 0x80)
    (hhigh : digit + 0x80 ≤ high) (octets : List UInt8) :
    readOctets (some ⟨owed + 2, low, high, value⟩) (UInt8.ofNat (digit + 0x80) :: octets) =
      readOctets (some ⟨owed + 1, 0x80, 0xBF, value * 64 + digit⟩) octets := by
  rw [readOctets, UInt8.toNat_ofNat_of_lt' (show digit + 0x80 < 256 by omega)]
  simp [stepOctet, hlow, hhigh]

/-- The last octet owed ends the character. -/
theorem readOctets_last (hdigit : digit < 64) (hlow : low ≤ digit + 0x80)
    (hhigh : digit + 0x80 ≤ high) (octets : List UInt8) :
    readOctets (some ⟨1, low, high, value⟩) (UInt8.ofNat (digit + 0x80) :: octets) =
      some (Char.ofNat (value * 64 + digit)) :: readOctets none octets := by
  rw [readOctets, UInt8.toNat_ofNat_of_lt' (show digit + 0x80 < 256 by omega)]
  simp [stepOctet, hlow, hhigh]

end Owed

/-! ## A character, by the number of its octets -/

section Lengths

variable {n : Nat}

/-- A character of two octets. -/
theorem readOctets_two (hlow : 0x80 ≤ n) (hhigh : n < 0x800) (octets : List UInt8) :
    readOctets none
        (UInt8.ofNat (n / 64 % 32 + 0xC0) :: UInt8.ofNat (n % 64 + 0x80) :: octets) =
      some (Char.ofNat n) :: readOctets none octets := by
  have hbegin := beginOctet_two (n / 64 % 32) (by omega) (by omega)
  rw [readOctets_begin (by omega) hbegin, readOctets_last (by omega) (by omega) (by omega)]
  have hvalue : n / 64 % 32 * 64 + n % 64 = n := by omega
  rw [hvalue]

/-- The second octet keeps off the numbers of two octets and the surrogates. -/
theorem readOctets_three (hlow : 0x800 ≤ n) (hhigh : n < 0x10000)
    (hvalid : n < 0xD800 ∨ 0xDFFF < n) (octets : List UInt8) :
    readOctets none (UInt8.ofNat (n / 4096 % 16 + 0xE0) :: UInt8.ofNat (n / 64 % 64 + 0x80) ::
        UInt8.ofNat (n % 64 + 0x80) :: octets) =
      some (Char.ofNat n) :: readOctets none octets := by
  have hbegin := beginOctet_three (n / 4096 % 16) (by omega)
  rw [readOctets_begin (by omega) hbegin, readOctets_owed (by omega), readOctets_last (by omega)
    (by omega) (by omega)]
  · have hvalue : (n / 4096 % 16 * 64 + n / 64 % 64) * 64 + n % 64 = n := by omega
    rw [hvalue]
  · split <;> omega
  · split <;> omega

/-- The second octet keeps off the numbers of three octets and those beyond Unicode. -/
theorem readOctets_four (hlow : 0x10000 ≤ n) (hhigh : n < 0x110000) (octets : List UInt8) :
    readOctets none (UInt8.ofNat (n / 262144 % 8 + 0xF0) :: UInt8.ofNat (n / 4096 % 64 + 0x80) ::
        UInt8.ofNat (n / 64 % 64 + 0x80) :: UInt8.ofNat (n % 64 + 0x80) :: octets) =
      some (Char.ofNat n) :: readOctets none octets := by
  have hbegin := beginOctet_four (n / 262144 % 8) (by omega)
  rw [readOctets_begin (by omega) hbegin, readOctets_owed (by omega), readOctets_owed (by omega)
    (by omega) (by omega), readOctets_last (by omega) (by omega) (by omega)]
  · have hvalue : ((n / 262144 % 8 * 64 + n / 4096 % 64) * 64 + n / 64 % 64) * 64 + n % 64 = n := by
      omega
    rw [hvalue]
  · split <;> omega
  · split <;> omega

end Lengths

/-! ## Texts -/

/-- **The octets of a character are read as the character,** whatever follows. -/
theorem readOctets_utf8EncodeChar (c : Char) (octets : List UInt8) :
    readOctets none (String.utf8EncodeChar c ++ octets) = some c :: readOctets none octets := by
  have hvalid : c.val.toNat < 0xD800 ∨ 0xDFFF < c.val.toNat ∧ c.val.toNat < 0x110000 := c.valid
  obtain ⟨n, hn⟩ : ∃ n, n = c.val.toNat := ⟨_, rfl⟩
  have hchar : c = Char.ofNat n := by rw [hn]; exact (Char.ofNat_toNat c).symm
  unfold String.utf8EncodeChar
  dsimp only
  rw [← hn] at hvalid ⊢
  rw [hchar]
  -- one case for each number of octets
  split
  · exact readOctets_ascii (by omega) octets
  · split
    · exact readOctets_two (by omega) (by omega) octets
    · split
      · exact readOctets_three (by omega) (by omega) (by omega) octets
      · exact readOctets_four (by omega) (by omega) octets

/-- The octets of a text are read as its characters. -/
theorem readOctets_utf8 (cs : List Char) : readOctets none (utf8 cs) = cs.map some := by
  induction cs with
  | nil => rfl
  | cons c cs ih => rw [utf8, List.flatMap_cons, readOctets_utf8EncodeChar, ← utf8, ih]; rfl

/-- **A text comes back from its octets.** -/
theorem ofUtf8?_utf8 (cs : List Char) : ofUtf8? (utf8 cs) = some cs := by
  have hread : cs.mapM (fun c => pure (id c)) = (pure (cs.map id) : Option (List Char)) :=
    List.mapM_pure
  rw [ofUtf8?, readOctets_utf8, List.mapM_map]
  rw [List.map_id] at hread
  exact hread

end ClientForge.Text
