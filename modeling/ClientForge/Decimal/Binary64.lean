/-
  Binary floating-point numbers of 64 bits as exact mathematics.

  A finite number is a sign, a whole significand `m` below `2 ^ 53` and a power `q` of two, never
  below `-1074`.  Every operation computes the exact quotient of two natural numbers first and
  rounds once, to the nearest number, a half to the even neighbour; what lies beyond the largest
  number becomes infinite.
-/
namespace ClientForge

/-- A number of 64 bits: not a number, infinite, or `m * 2 ^ q` with a sign. -/
inductive Binary64 where
  | nan
  | infinite (negative : Bool)
  | finite (negative : Bool) (m : Nat) (q : Int)
deriving DecidableEq, Repr, Inhabited

namespace Binary64

/-- The least power of two of a finite number. -/
def minPower : Int := -1074

/-- The greatest power of two of a finite number. -/
def maxPower : Int := 971

/-- Zero with a sign. -/
def zero (negative : Bool) : Binary64 := .finite negative 0 minPower

/-! ## Rounding a quotient -/

/-- The quotient rounded to the nearest whole number, a half to the even neighbour. -/
def roundDiv (num den : Nat) : Nat :=
  let whole := num / den
  let rest := num % den
  if 2 * rest < den then whole
  else if den < 2 * rest then whole + 1
  else whole + whole % 2

/-- The quotient `num / den * 2 ^ (-q)` as a numerator and a denominator. -/
def scaled (num den : Nat) (q : Int) : Nat × Nat :=
  if q < 0 then (num * Nat.pow 2 (-q).toNat, den) else (num, den * Nat.pow 2 q.toNat)

/-- The number nearest to `num / den`. -/
def ofRatio (negative : Bool) (num den : Nat) : Binary64 :=
  if num == 0 then zero negative
  else
    let guess : Int := (Nat.log2 num : Int) - (Nat.log2 den : Int) - 53
    let first := scaled num den guess
    let power := max minPower (if first.1 / first.2 < Nat.pow 2 53 then guess else guess + 1)
    let exact := scaled num den power
    let m := roundDiv exact.1 exact.2
    let (m, power) := if m == Nat.pow 2 53 then (Nat.pow 2 52, power + 1) else (m, power)
    if maxPower < power then .infinite negative else .finite negative m power

/-- The number nearest to a natural number. -/
def ofNat (negative : Bool) (n : Nat) : Binary64 := ofRatio negative n 1

/-- How far a decimal exponent can lie from zero before the number is surely zero or infinite. -/
def exponentReach : Int := 400

/-- The number nearest to `digits * 10 ^ exponent`. -/
def ofDecimal (negative : Bool) (digits : Nat) (exponent : Int) : Binary64 :=
  let size : Int := (Nat.toDigits 10 digits).length
  if digits == 0 then zero negative
  else if exponentReach < exponent + size then .infinite negative
  else if exponent + size < -exponentReach then zero negative
  else if exponent < 0 then ofRatio negative digits (Nat.pow 10 (-exponent).toNat)
  else ofNat negative (digits * Nat.pow 10 exponent.toNat)

/-! ## Arithmetic -/

/-- The number with the given sign and the magnitude of `x`. -/
def withSign (negative : Bool) : Binary64 → Binary64
  | nan => nan
  | infinite _ => infinite negative
  | finite _ m q => finite negative m q

/-- Whether the number is a zero of either sign. -/
def isZero : Binary64 → Bool
  | finite _ m _ => m == 0
  | _ => false

/-- Whether the number is finite. -/
def isFinite : Binary64 → Bool
  | finite _ _ _ => true
  | _ => false

/-- The product of two finite magnitudes. -/
def mul : Binary64 → Binary64 → Binary64
  | finite _ m q, finite _ n r =>
    let exact := scaled (m * n) 1 (-(q + r))
    ofRatio false exact.1 exact.2
  | _, _ => infinite false

/-- The quotient of two finite magnitudes, the second of them not zero. -/
def div : Binary64 → Binary64 → Binary64
  | finite _ m q, finite _ n r =>
    let exact := scaled m n (-(q - r))
    ofRatio false exact.1 exact.2
  | _, _ => infinite false

/-! ## Reading decimal text -/

/-- The value of a row of decimal digits. -/
def digitsValue (ds : List Char) : Nat := ds.foldl (fun n d => 10 * n + (d.toNat - '0'.toNat)) 0

/-- The exponent after an `e`: an optional sign and at least one digit, to the end. -/
def exponent? (cs : List Char) : Option Int :=
  let (negative, ds) := match cs with
    | '-' :: rest => (true, rest)
    | '+' :: rest => (false, rest)
    | rest => (false, rest)
  if ds.isEmpty || !ds.all Char.isDigit then none
  else some (if negative then -(digitsValue ds : Int) else digitsValue ds)

/-- The number a text without a sign denotes: digits with an optional point and exponent, at least
one digit before the exponent. -/
def magnitude? (negative : Bool) (cs : List Char) : Option Binary64 :=
  let whole := cs.takeWhile Char.isDigit
  let afterWhole := cs.dropWhile Char.isDigit
  let (fraction, tail) := match afterWhole with
    | '.' :: rest => (rest.takeWhile Char.isDigit, rest.dropWhile Char.isDigit)
    | rest => ([], rest)
  if whole.isEmpty && fraction.isEmpty then none
  else
    let digits := digitsValue (whole ++ fraction)
    match tail with
    | [] => some (ofDecimal negative digits (-(fraction.length : Int)))
    | c :: rest =>
      if c == 'e' || c == 'E' then
        (exponent? rest).map fun e => ofDecimal negative digits (e - fraction.length)
      else none

/-- The number a decimal text denotes, rounded once; also `inf`, `infinity` and `nan` in any
case. -/
def ofText? (text : String) : Option Binary64 :=
  let (negative, cs) := match text.toList with
    | '-' :: rest => (true, rest)
    | '+' :: rest => (false, rest)
    | rest => (false, rest)
  let word := String.ofList (cs.map Char.toLower)
  if word == "inf" || word == "infinity" then some (.infinite negative)
  else if word == "nan" then some .nan
  else magnitude? negative cs

example : ofDecimal false 5 (-1) = .finite false (Nat.pow 2 52) (-53) := by decide
example : ofText? "1e400" = some (.infinite false) := by decide +kernel

end Binary64

end ClientForge
