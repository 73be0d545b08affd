/-
  Literals of the generated Rust code.

  An ordinary text literal escapes the quote, the backslash and the line controls.  A raw one
  copies the text and closes with a fence of `#` that does not occur in it after a quote: one
  more than the longest such run, which is the shortest fence that works.  A number with a
  fraction is written without an exponent and always with a point.
-/
import ClientForge.Decimal.Shortest
import ClientForge.Text.Digits

namespace ClientForge.Code

/-! ## Text -/

/-- How one character is written in a text literal. -/
def escapedChar (c : Char) : List Char :=
  if c == '\\' then ['\\', '\\']
  else if c == '"' then ['\\', '"']
  else if c == '\n' then ['\\', 'n']
  else if c == '\r' then ['\\', 'r']
  else if c == '\t' then ['\\', 't']
  else [c]

/-- The text as it stands between the quotes of a literal. -/
def escapedText (text : String) : String := String.ofList (text.toList.flatMap escapedChar)

/-- A text literal. -/
def textLiteral (text : String) : String := "\"" ++ escapedText text ++ "\""

/-- The longest run of `#` that follows a quote; nought where no quote is followed by one. -/
def longestFence : List Char → Nat
  | [] => 0
  | c :: cs =>
    if c == '"' then max (cs.takeWhile (· == '#')).length (longestFence cs) else longestFence cs

/-- The fence of a raw literal of the text. -/
def fence (text : String) : String :=
  String.ofList (List.replicate (longestFence text.toList + 1) '#')

/-- A raw text literal. -/
def rawLiteral (text : String) : String :=
  "r" ++ fence text ++ "\"" ++ text ++ "\"" ++ fence text

/-! ## Numbers -/

/-- A number with a fraction. -/
def floatLiteral (x : Binary64) : String :=
  match x with
  | .nan => "f64::NAN"
  | .infinite negative => if negative then "f64::NEG_INFINITY" else "f64::INFINITY"
  | .finite .. =>
    let text := Binary64.Layout.positional.text x
    if text.toList.contains '.' then text else text ++ ".0"

/-- A truth value. -/
def boolLiteral (b : Bool) : String := if b then "true" else "false"

example : textLiteral "say \"hi\"" = "\"say \\\"hi\\\"\"" := by decide +kernel
example : rawLiteral "\"# \"##" = "r###\"\"# \"##\"###" := by decide +kernel

end ClientForge.Code
