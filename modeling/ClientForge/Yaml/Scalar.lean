/-
  The type of a YAML scalar where any value may stand.

  A tag of the core schema decides first.  Without a tag, a scalar between quotes is text, and a
  plain one is null, a boolean, a whole number, a number or text, by its spelling and in this
  order.  A whole number that does not fit in 64 bits has no value; one that does not even fit in
  128 is an ordinary number.
-/
import ClientForge.Document.Node
import ClientForge.Text.Split

namespace ClientForge.Yaml

/-! ## Spellings -/

/-- Whether the text spells null; the empty text does not. -/
def isNull (text : String) : Bool := ["null", "Null", "NULL", "~"].contains text

/-- The boolean that the text spells. -/
def bool? (text : String) : Option Bool :=
  if ["true", "True", "TRUE"].contains text then some true
  else if ["false", "False", "FALSE"].contains text then some false
  else none

/-- The value of a digit in a base of at most sixteen. -/
def digit? (base : Nat) (c : Char) : Option Nat :=
  let value :=
    if c.isDigit then c.toNat - '0'.toNat
    else if 'a' ≤ c && c ≤ 'f' then c.toNat - 'a'.toNat + 10
    else if 'A' ≤ c && c ≤ 'F' then c.toNat - 'A'.toNat + 10
    else base
  if value < base then some value else none

/-- The number that at least one digit of the base spells. -/
def digits? (base : Nat) (cs : List Char) : Option Nat :=
  if cs.isEmpty then none
  else cs.foldlM (fun n c => (digit? base c).map fun d => base * n + d) 0

/-- Splits a sign off a text. -/
def signed : List Char → Option Bool × List Char
  | '-' :: rest => (some true, rest)
  | '+' :: rest => (some false, rest)
  | rest => (none, rest)

/-- Whether the text is a row of digits with a superfluous zero first, which is no number. -/
def isPaddedDigits (cs : List Char) : Bool :=
  let digits := (signed cs).2
  digits.length > 1 && digits.head? == some '0' && digits.all Char.isDigit

/-- The whole number that a text spells: decimal, or with the mark of base 16, 8 or 2. -/
def integer? (cs : List Char) : Option Int :=
  let (sign, rest) := signed cs
  let magnitude := match rest with
    | '0' :: 'x' :: ds => digits? 16 ds
    | '0' :: 'o' :: ds => digits? 8 ds
    | '0' :: 'b' :: ds => digits? 2 ds
    | ds => if isPaddedDigits cs then none else digits? 10 ds
  magnitude.map fun n => if sign == some true then -(n : Int) else n

/-- The number that a text spells.  One beyond the largest is text. -/
def real? (cs : List Char) : Option Binary64 :=
  let text := String.ofList cs
  let (sign, rest) := signed cs
  let unsigned := if sign == some false then rest else cs
  let word := String.ofList unsigned
  if [".inf", ".Inf", ".INF"].contains word then some (.infinite false)
  else if ["-.inf", "-.Inf", "-.INF"].contains text then some (.infinite true)
  else if [".nan", ".NaN", ".NAN"].contains text then some .nan
  else if sign == some false && (signed rest).1.isSome then none
  else (Binary64.ofText? word).filter Binary64.isFinite

/-! ## Whole numbers by their size -/

/-- Whether the number fits in the given count of bits, with a sign only where it needs one. -/
def fits (bits : Nat) (n : Int) : Bool :=
  decide (-Int.pow 2 (bits - 1) ≤ n) && decide (n < Int.pow 2 bits)

/-- What a text that spells a whole number stands for. -/
inductive Whole where
  | number (n : Int)
  /-- It fits in 128 bits and not in 64. -/
  | tooLarge
  /-- It spells no whole number of 128 bits. -/
  | other

/-- The whole number of a text by its size. -/
def whole (cs : List Char) : Whole :=
  match integer? cs with
  | none => .other
  | some n => if fits 64 n then .number n else if fits 128 n then .tooLarge else .other

/-! ## Resolution -/

/-- The scalar that a plain text without a tag stands for. -/
def plainScalar? (text : String) : Option Scalar :=
  let cs := text.toList
  if text.isEmpty || isNull text then some .null
  else match bool? text with
    | some b => some (.bool b)
    | none => match whole cs with
      | .number n => some (.integer n)
      | .tooLarge => none
      | .other =>
        if isPaddedDigits cs then some (.text text)
        else match real? cs with
          | some x => some (.real x)
          | none => some (.text text)

/-- The start of the tags of the core schema. -/
def coreTag : String := "tag:yaml.org,2002:"

/-- Whether a tag is one of the document's own, which no value can have. -/
def isOwnTag (tag : Option String) : Bool := tag.any fun t => t.toList.head? == some '!'

/-- The scalar that a written one stands for where any value may stand, or nothing where it has no
value. -/
def resolve? (w : Written) : Option Scalar :=
  match w.tag with
  | none => if w.style == .plain then plainScalar? w.text else some (.text w.text)
  | some tag =>
    if isOwnTag w.tag then none
    else if tag == coreTag ++ "bool" then (bool? w.text).map Scalar.bool
    else if tag == coreTag ++ "int" then
      match whole w.text.toList with
      | .number n => some (.integer n)
      | _ => none
    else if tag == coreTag ++ "float" then (real? w.text.toList).map Scalar.real
    else if tag == coreTag ++ "null" then if isNull w.text then some .null else none
    else some (.text w.text)

example : plainScalar? "0x1F" = some (.integer 31) := by decide +kernel
example : plainScalar? "017" = some (.text "017") := by decide +kernel

end ClientForge.Yaml
