/-
  The numbers of a JSON text.

  A number without fraction and exponent is whole as long as it fits in 64 bits.  Every other
  number becomes a binary one by a rule of its own, which is quick and not always the nearest:
  the leading digits are gathered in 64 bits, further digits are dropped, and the result is scaled
  by one multiplication or division with a power of ten, or a few where the exponent is very low.
  A number that grows beyond the largest one is unreadable.
-/
import ClientForge.Document.Node

namespace ClientForge.Json

/-! ## Shape -/

/-- A number as it is written. -/
structure NumberText where
  negative : Bool
  whole : List Char
  /-- The digits after the point, if there is one. -/
  fraction : Option (List Char)
  /-- Whether the exponent is negative, and its digits. -/
  exponent : Option (Bool × List Char)
deriving DecidableEq, Repr

/-- The exponent and nothing after it. -/
def exponentText? : List Char → Option (Option (Bool × List Char))
  | [] => some none
  | c :: rest =>
    if c == 'e' || c == 'E' then
      let (negative, digits) := match rest with
        | '-' :: ds => (true, ds)
        | '+' :: ds => (false, ds)
        | ds => (false, ds)
      if digits.isEmpty || !digits.all Char.isDigit then none else some (some (negative, digits))
    else none

/-- The parts of a number: no superfluous zero first, at least one digit on each side of a point,
and at least one after an exponent mark. -/
def numberText? (cs : List Char) : Option NumberText :=
  let (negative, cs) := match cs with
    | '-' :: rest => (true, rest)
    | rest => (false, rest)
  let whole := cs.takeWhile Char.isDigit
  let tail := cs.dropWhile Char.isDigit
  if whole.isEmpty || (whole.head? == some '0' && whole.length != 1) then none
  else match tail with
    | '.' :: rest =>
      let fraction := rest.takeWhile Char.isDigit
      if fraction.isEmpty then none
      else (exponentText? (rest.dropWhile Char.isDigit)).map
        fun e => ⟨negative, whole, some fraction, e⟩
    | rest => (exponentText? rest).map fun e => ⟨negative, whole, none, e⟩

/-! ## Value -/

/-- The greatest number of 64 bits. -/
def maxWord : Nat := Nat.pow 2 64 - 1

/-- Gathers digits into 64 bits for as long as they fit: the number gathered and the digits left. -/
def gather (n : Nat) : List Char → Nat × List Char
  | [] => (n, [])
  | d :: ds =>
    let next := 10 * n + (d.toNat - '0'.toNat)
    if next ≤ maxWord then gather next ds else (n, d :: ds)

/-- The power of ten as a binary number. -/
def tenTo (k : Nat) : Binary64 := Binary64.ofNat false (Nat.pow 10 k)

/-- The greatest power of ten that is a binary number. -/
def maxTen : Nat := 308

/-- Scales a binary number by a power of ten; `none` where it grows too large.  Two divisions by
the greatest power already reach zero, so three steps are enough. -/
def scaleBy : Nat → Binary64 → Int → Option Binary64
  | 0, x, _ => some x
  | steps + 1, x, e =>
    if e.natAbs ≤ maxTen then
      if 0 ≤ e then
        let y := x.mul (tenTo e.natAbs)
        if y.isFinite then some y else none
      else some (x.div (tenTo e.natAbs))
    else if x.isZero then some x
    else if 0 ≤ e then none
    else scaleBy steps (x.div (tenTo maxTen)) (e + maxTen)

/-- The greatest exponent that is taken as written. -/
def maxExponent : Nat := Nat.pow 2 31 - 1

/-- The binary number of the gathered digits and an exponent. -/
def scaledReal (negative : Bool) (digits : Nat) (e : Int) : Scalar :=
  match scaleBy 3 (Binary64.ofNat false digits) e with
  | some x => .real (x.withSign negative)
  | none => .unreadable

/-- The value of a number that is not whole. -/
def realValue (t : NumberText) : Scalar :=
  let (n, left) := gather 0 t.whole
  let (n, shift) := match t.fraction with
    | none => (n, (left.length : Int))
    | some fraction =>
      let (n', left') := gather n fraction
      (n', left.length - (fraction.length - left'.length : Nat))
  match t.exponent with
  | none => scaledReal t.negative n shift
  | some (negative, digits) =>
    let e := Binary64.digitsValue digits
    if maxExponent < e then
      if n != 0 && !negative then .unreadable else .real (Binary64.zero t.negative)
    else scaledReal t.negative n (if negative then shift - e else shift + e)

/-- The value of a number. -/
def numberValue (t : NumberText) : Scalar :=
  if t.fraction.isNone && t.exponent.isNone && (gather 0 t.whole).2.isEmpty then
    let n := (gather 0 t.whole).1
    if !t.negative then .integer n
    else if n == 0 || Nat.pow 2 63 < n then .real (Binary64.ofNat true n)
    else .integer (-n)
  else realValue t

/-- The scalar that the characters of a number denote. -/
def number? (cs : List Char) : Option Scalar := (numberText? cs).map numberValue

example : number? ['-', '1', '2'] = some (.integer (-12)) := by decide +kernel
example : number? ['0', '1'] = none := by decide +kernel

end ClientForge.Json
