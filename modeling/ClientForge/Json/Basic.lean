/-
  JSON values and their compact text.

  A value that is kept (an example, a payload) is always printed in one canonical way: no spaces,
  object members in increasing key order, whole numbers as they are and every other number by its
  shortest digits.  `ofEntries` makes an object from members in any order; of two members with
  one key the later counts.
-/
import ClientForge.Decimal.Shortest
import ClientForge.Ordered.Table
import ClientForge.Text.Digits
import ClientForge.Text.Quoted

namespace ClientForge

/-- A JSON value. -/
inductive Json where
  | null
  | bool (b : Bool)
  /-- A whole number of at most 64 bits, with or without a sign. -/
  | integer (n : Int)
  /-- Any other number. -/
  | real (x : Binary64)
  | text (s : String)
  | array (items : List Json)
  /-- Members by key. -/
  | object (entries : List (String × Json))
deriving Inhabited, Repr

namespace Json

/-- The object of the members, in key order. -/
def ofEntries (entries : List (String × Json)) : Json := object (Table.ofList entries).entries

/-- A number, or null where it is none. -/
def ofReal (x : Binary64) : Json := if x.isFinite then real x else null

/-! ## Printing -/

/-- How one character is written between the quotes of a JSON text. -/
def escapedChar (c : Char) : List Char :=
  if c == '"' then ['\\', '"']
  else if c == '\\' then ['\\', '\\']
  else if c == '\x08' then ['\\', 'b']
  else if c == '\x0c' then ['\\', 'f']
  else if c == '\n' then ['\\', 'n']
  else if c == '\r' then ['\\', 'r']
  else if c == '\t' then ['\\', 't']
  else if c.toNat < 0x10 then ['\\', 'u', '0', '0', '0'] ++ Text.hexDigits c.toNat
  else if c.toNat < 0x20 then ['\\', 'u', '0', '0'] ++ Text.hexDigits c.toNat
  else [c]

/-- A text between double quotes with its escapes. -/
def quotedText (s : String) : String :=
  String.ofList ('"' :: s.toList.flatMap escapedChar ++ ['"'])

mutual

/-- The compact text of a value. -/
def compact : Json → String
  | null => "null"
  | bool b => if b then "true" else "false"
  | integer n => signedText n
  | real x => Binary64.Layout.value.text x
  | text s => quotedText s
  | array items => "[" ++ String.intercalate "," (compactItems items) ++ "]"
  | object entries => "\x7b" ++ String.intercalate "," (compactEntries entries) ++ "\x7d"

/-- The texts of the items of a list. -/
def compactItems : List Json → List String
  | [] => []
  | item :: rest => compact item :: compactItems rest

/-- The texts of the members of an object. -/
def compactEntries : List (String × Json) → List String
  | [] => []
  | (key, value) :: rest => (quotedText key ++ ":" ++ compact value) :: compactEntries rest

end

example : compact (ofEntries [("b", .integer (-1)), ("a", .array [.null])]) =
    "\x7b\"a\":[null],\"b\":-1\x7d" := by decide +kernel

end Json

end ClientForge
