/-
  The order of texts is that of their octets.

  Texts are compared here character by character, and names, keys and routes are put in order in this
  way.  The maps and sets of a run, however, are ordered by the octets of their keys.  In UTF-8 the two
  are the same, and with that every statement about order in this development is one about the order
  that the output has.

  What has to be shown is about two characters: the lesser one has the lesser octets, whatever follows
  (`utf8EncodeChar_append_lt`).  A character has up to four octets, and the first tells how many.  Where
  the two have the same number of octets, their digits to base 64 are compared from the front, and the
  first that differs decides.  Where they have not, the one with more octets is the greater, and so is
  its first octet, since the ranges of first octets are in order.  What follows never counts, since no
  octets of one character begin those of another.

  For texts the rest is an induction on the row of characters (`utf8_lt_of_lt`), and the other direction
  follows because both orders are total (`lt_iff_utf8_lt`).
-/
import ClientForge.Text.Utf8

namespace ClientForge.Text

/-- An octet that holds the number, if it is small enough. -/
theorem octet_lt_iff {m n : Nat} (hm : m < 256) (hn : n < 256) :
    UInt8.ofNat m < UInt8.ofNat n ↔ m < n := by
  rw [UInt8.lt_iff_toNat_lt, UInt8.toNat_ofNat', UInt8.toNat_ofNat', Nat.mod_eq_of_lt hm,
    Nat.mod_eq_of_lt hn]

/-- Octets that hold different numbers differ. -/
theorem octet_eq_iff {m n : Nat} (hm : m < 256) (hn : n < 256) :
    UInt8.ofNat m = UInt8.ofNat n ↔ m = n := by
  rw [← UInt8.toNat_inj, UInt8.toNat_ofNat', UInt8.toNat_ofNat', Nat.mod_eq_of_lt hm,
    Nat.mod_eq_of_lt hn]

/-- **A lesser character has the lesser octets,** whatever follows. -/
theorem utf8EncodeChar_append_lt {c d : Char} (h : c < d) (xs ys : List UInt8) :
    String.utf8EncodeChar c ++ xs < String.utf8EncodeChar d ++ ys := by
  have hlt : c.val.toNat < d.val.toNat := h
  have hbound : d.val.toNat < 0x110000 := by
    have hvalid := d.valid
    simp only [UInt32.isValidChar, Nat.isValidChar] at hvalid
    omega
  unfold String.utf8EncodeChar
  dsimp only
  generalize c.val.toNat = v at *
  generalize d.val.toNat = w at *
  have hdigits (n : Nat) : n / 4096 = n / 64 / 64 ∧ n / 262144 = n / 64 / 64 / 64 := by omega
  rw [(hdigits v).1, (hdigits v).2, (hdigits w).1, (hdigits w).2]
  -- one case for each pair of lengths; where the first is the longer one, it is not the lesser
  repeat' split
  all_goals
    simp only [List.cons_append, List.nil_append, List.cons_lt_cons_iff]
    simp (disch := omega) only [octet_lt_iff, octet_eq_iff]
    omega

/-- Every character has an octet. -/
theorem utf8EncodeChar_ne_nil (c : Char) : String.utf8EncodeChar c ≠ [] := by
  unfold String.utf8EncodeChar
  dsimp only
  repeat' split
  all_goals exact List.cons_ne_nil _ _

/-- A lesser text has the lesser octets. -/
theorem utf8_lt_of_lt {cs ds : List Char} (h : cs < ds) : utf8 cs < utf8 ds := by
  induction cs generalizing ds with
  | nil => cases ds with
    | nil => exact absurd h (List.not_lt_nil [])
    | cons d ds =>
      obtain ⟨octet, rest, hoctets⟩ := List.exists_cons_of_ne_nil (utf8EncodeChar_ne_nil d)
      rw [utf8, utf8, List.flatMap_nil, List.flatMap_cons, hoctets]
      exact List.nil_lt_cons octet _
  | cons c cs ih => cases ds with
    | nil => exact absurd h (List.not_lt_nil _)
    | cons d ds =>
      rw [utf8, utf8, List.flatMap_cons, List.flatMap_cons]
      rcases List.cons_lt_cons_iff.1 h with hlt | ⟨rfl, hlt⟩
      · exact utf8EncodeChar_append_lt hlt _ _
      · exact List.append_left_lt (ih hlt)

/-- **The order of texts is that of their octets.** -/
theorem lt_iff_utf8_lt {s t : String} : s < t ↔ utf8 s.toList < utf8 t.toList := by
  constructor
  · intro h
    exact utf8_lt_of_lt h
  · intro h
    rcases Std.lt_trichotomy s t with hlt | rfl | hgt
    · exact hlt
    · exact absurd h (List.lt_irrefl _)
    · exact absurd h (List.lt_asymm (utf8_lt_of_lt hgt))

end ClientForge.Text
