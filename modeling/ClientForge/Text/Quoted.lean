/-
  Quoted text for messages: the text between double quotes, with everything that a reader of the
  message could not see written as an escape.

  The quote, the backslash and the common controls have short escapes; a character that does not
  print, or that would merge with the one before it, is given by its number in hexadecimal.
  Every other character stands for itself.
-/
import ClientForge.Text.Casing
import ClientForge.Text.QuotedTable

namespace ClientForge.Text

/-- The digits of a code point in lower-case hexadecimal, without leading zeros. -/
def hexDigits (n : Nat) : List Char := Nat.toDigits 16 n

/-- How one character is written between the quotes. -/
def quotedChar (c : Char) : List Char :=
  if c == '\x00' then ['\\', '0']
  else if c == '\t' then ['\\', 't']
  else if c == '\n' then ['\\', 'n']
  else if c == '\r' then ['\\', 'r']
  else if c == '"' then ['\\', '"']
  else if c == '\\' then ['\\', '\\']
  else if 0x20 ≤ c.toNat && c.toNat < 0x7F then [c]
  else if inRanges numberedRanges c.toNat then
    ['\\', 'u', '\x7b'] ++ hexDigits c.toNat ++ ['\x7d']
  else [c]

/-- The text between double quotes. -/
def quoted (text : String) : String :=
  String.ofList ('"' :: text.toList.flatMap quotedChar ++ ['"'])

example : quotedChar 'a' = ['a'] := by decide
example : quotedChar '"' = ['\\', '"'] := by decide

end ClientForge.Text
