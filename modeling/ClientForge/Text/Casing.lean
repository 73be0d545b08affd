/-
  Upper and lower case for all of Unicode.

  One character may become several (`ß` is written `SS`), and a capital sigma at the end of a
  word has a small form of its own.  ASCII goes by its own short rule, which agrees with the
  tables; everything else is looked up.
-/
import ClientForge.Text.CasingTable

namespace ClientForge.Text

/-! ## Looking up a character -/

/-- Whether the code point lies in one of the ranges. -/
def inRanges (ranges : List (Nat × Nat)) (n : Nat) : Bool :=
  ranges.any fun range => range.1 ≤ n && n ≤ range.2

/-- The code point that the runs map `n` to, itself where no run holds it. -/
def shiftedBy (runs : List CaseRun) (n : Nat) : Nat :=
  match runs.find? fun run => run.first ≤ n && n ≤ run.last && (n - run.first) % run.step == 0 with
  | some run => (Int.ofNat n + run.shift).toNat
  | none => n

/-- The mapping of one character: a special form if it has one, else the simple one. -/
def mapCase (specials : List (Nat × List Nat)) (runs : List CaseRun) (c : Char) : List Char :=
  match specials.find? fun entry => entry.1 == c.toNat with
  | some entry => entry.2.map Char.ofNat
  | none => [Char.ofNat (shiftedBy runs c.toNat)]

/-- The upper-case form of a character. -/
def upperChar (c : Char) : List Char :=
  if c.toNat < 0x80 then [c.toUpper] else mapCase upperSpecials upperRuns c

/-- The lower-case form of a character on its own. -/
def lowerChar (c : Char) : List Char :=
  if c.toNat < 0x80 then [c.toLower] else mapCase lowerSpecials lowerRuns c

/-! ## Whole texts -/

/-- Whether the nearest character that is not passed over is a cased one. -/
def nearestIsCased (cs : List Char) : Bool :=
  match cs.dropWhile fun c => inRanges caseIgnorableRanges c.toNat with
  | [] => false
  | c :: _ => inRanges casedRanges c.toNat

/-- The text in lower case, `before` holding the characters already passed in reverse.  A capital
sigma after a cased letter and before none is the final sigma. -/
def lowerAfter (before : List Char) : List Char → List Char
  | [] => []
  | c :: cs =>
    let form :=
      if c.toNat == 0x3A3 then
        [Char.ofNat (if nearestIsCased before && !nearestIsCased cs then 0x3C2 else 0x3C3)]
      else lowerChar c
    form ++ lowerAfter (c :: before) cs

/-- The text in lower case. -/
def lower (cs : List Char) : List Char := lowerAfter [] cs

/-- The text with its first character in upper case. -/
def capitalize : List Char → List Char
  | [] => []
  | c :: cs => upperChar c ++ cs

/-- The text with its first character in lower case. -/
def uncapitalize : List Char → List Char
  | [] => []
  | c :: cs => lowerChar c ++ cs

/-- The text with its ASCII letters in lower case. -/
def lowerAscii (cs : List Char) : List Char := cs.map Char.toLower

theorem lowerChar_ascii {c : Char} (h : c.toNat < 0x80) : lowerChar c = [c.toLower] := by
  simp [lowerChar, h]

theorem upperChar_ascii {c : Char} (h : c.toNat < 0x80) : upperChar c = [c.toUpper] := by
  simp [upperChar, h]

example : capitalize ['a', 'B'] = ['A', 'B'] := by decide
example : upperChar 'ß' = ['S', 'S'] := by decide

end ClientForge.Text
