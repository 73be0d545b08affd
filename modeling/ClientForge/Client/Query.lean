/-
  Query strings.

  Letters, digits and four marks stand for themselves; every other octet of the text in UTF-8 is
  written as a percent sign and two hexadecimal digits.  A query is put behind a path, its first
  pair behind a question mark and every other one behind an ampersand.
-/
import ClientForge.Text.Utf8

namespace ClientForge.Query

/-- Whether the character stands for itself. -/
def isUnreserved (c : Char) : Bool := c.isAlphanum || ['-', '.', '_', '~'].contains c

/-- The upper-case hexadecimal digit of a number below sixteen. -/
def hexDigit (n : Nat) : Char :=
  if n < 10 then Char.ofNat ('0'.toNat + n) else Char.ofNat ('A'.toNat + (n - 10))

/-- How one octet is written. -/
def encodedOctet (octet : UInt8) : List Char :=
  let c := Char.ofNat octet.toNat
  if isUnreserved c then [c]
  else ['%', hexDigit (octet.toNat / 16), hexDigit (octet.toNat % 16)]

/-- A text in percent encoding. -/
def encoded (text : String) : List Char := (Text.utf8 text.toList).flatMap encodedOctet

/-- A key and its value. -/
def encodedPair (pair : String × String) : List Char := encoded pair.1 ++ '=' :: encoded pair.2

/-- The query of the pairs, with the mark in front of each. -/
def queryChars : List (String × String) → List Char
  | [] => []
  | first :: rest =>
    '?' :: encodedPair first ++ rest.flatMap fun pair => '&' :: encodedPair pair

/-- The path with the query of the pairs behind it. -/
def append (path : String) (pairs : List (String × String)) : String :=
  String.ofList (path.toList ++ queryChars pairs)

example : append "/items" [("q", "a b"), ("ids", "1,2")] = "/items?q=a%20b&ids=1%2C2" := by
  decide +kernel

end ClientForge.Query
