/-
  Whole numbers in decimal digits, without leading zeros and with a sign only below nought.
-/
namespace ClientForge

/-- A whole number in decimal digits. -/
def decimalText (n : Nat) : String := String.ofList (Nat.toDigits 10 n)

/-- A whole number in decimal digits, with a minus sign if it is negative. -/
def signedText (n : Int) : String := (if n < 0 then "-" else "") ++ decimalText n.natAbs

example : signedText (-12) = "-12" := by decide +kernel

end ClientForge
