/-
  The shortest decimal text that reads back as the same number.

  A finite number is the middle of an interval of reals that round to it, the ends included when
  its significand is even.  Grids of ever finer powers of ten are tried; on each the two points
  next to the number are tested in exact whole-number arithmetic, and the first grid with a hit
  wins, of two hits the nearer, a tie to the even one.  If a grid has any point in the interval
  it has one of these two, so no shorter decimal reads back.

  How the digits are laid out is a record of its own: the same digits serve text that is always
  positional and text that turns to an exponent.
-/
import ClientForge.Decimal.Binary64

namespace ClientForge.Binary64

/-- A decimal number `digits * 10 ^ exponent`. -/
structure Decimal where
  digits : Nat
  exponent : Int
deriving DecidableEq, Repr

/-! ## Finding the digits -/

/-- The reals that round to `m * 2 ^ q`, in quarters of a unit in the last place: the low end, the
number itself, the high end, and whether the ends belong to it. -/
structure Interval where
  low : Nat
  value : Nat
  high : Nat
  closed : Bool
  /-- The power of two that the three bounds are multiples of. -/
  power : Int

/-- The interval of a finite number; below a power of two the gap is half as wide. -/
def interval (m : Nat) (q : Int) : Interval :=
  ⟨if m == Nat.pow 2 52 && minPower < q then 4 * m - 1 else 4 * m - 2, 4 * m, 4 * m + 2, m % 2 == 0,
    q - 2⟩

/-- A pair of whole numbers in the proportion of `a * 2 ^ power` to `10 ^ j`. -/
def proportion (a : Nat) (power j : Int) : Nat × Nat :=
  let (num, den) := scaled a 1 (-power)
  if j < 0 then (num * Nat.pow 10 (-j).toNat, den) else (num, den * Nat.pow 10 j.toNat)

/-- Whether `n * 10 ^ j` lies in the interval. -/
def Interval.holds (i : Interval) (n : Nat) (j : Int) : Bool :=
  let (lowNum, den) := proportion i.low i.power j
  let (highNum, _) := proportion i.high i.power j
  if i.closed then decide (lowNum ≤ n * den) && decide (n * den ≤ highNum)
  else decide (lowNum < n * den) && decide (n * den < highNum)

/-- The point of the grid of `10 ^ j` nearest to the number among those in the interval. -/
def Interval.point? (i : Interval) (j : Int) : Option Nat :=
  let (num, den) := proportion i.value i.power j
  let below := num / den
  let nearest := roundDiv num den
  if i.holds nearest j then some nearest
  else if i.holds below j then some below
  else if i.holds (below + 1) j then some (below + 1)
  else none

/-- The first grid with a point, from `10 ^ j` downwards through `steps` more. -/
def Interval.search (i : Interval) : Nat → Int → Option Decimal
  | 0, j => (i.point? j).map (⟨·, j⟩)
  | steps + 1, j =>
    match i.point? j with
    | some n => some ⟨n, j⟩
    | none => i.search steps (j - 1)

/-- The shortest decimal that rounds to `m * 2 ^ q`, which is not zero.  The search starts above
the number's own power of ten and ends before the twentieth digit. -/
def shortest (m : Nat) (q : Int) : Decimal :=
  let top : Int := ((Nat.log2 m : Int) + q) * 30103 / 100000 + 2
  ((interval m q).search 24 top).getD ⟨m, q⟩

/-! ## Laying the digits out -/

/-- How digits become text: the greatest count of digits before the point and of zeros after it
that is still written positionally, and whether a whole number keeps one decimal. -/
structure Layout where
  /-- Positional text has at most this many digits before the point. -/
  mostWhole : Option Int
  /-- Positional text has fewer than this many zeros after the point. -/
  mostZeros : Option Int
  /-- A whole number ends in `.0`. -/
  keepsPoint : Bool

/-- Free values: positional from `0.00001` up to sixteen digits, always with a decimal. -/
def Layout.value : Layout := ⟨some 16, some 5, true⟩

/-- Literals of an enumeration: always positional, whole numbers without a point. -/
def Layout.positional : Layout := ⟨none, none, false⟩

/-- Zeros, `n` of them. -/
def zeros (n : Int) : List Char := List.replicate n.toNat '0'

/-- The digits of a decimal that is not zero as text, without a sign. -/
def Layout.digits (layout : Layout) (d : Decimal) : List Char :=
  let ds := Nat.toDigits 10 d.digits
  let point : Int := ds.length + d.exponent
  let fits : Bool :=
    (match layout.mostWhole with | some n => decide (point ≤ n) | none => true) &&
    (match layout.mostZeros with | some n => decide (-n < point) | none => true)
  if fits then
    if 0 ≤ d.exponent then
      ds ++ zeros d.exponent ++ (if layout.keepsPoint then ['.', '0'] else [])
    else if 0 < point then ds.take point.toNat ++ '.' :: ds.drop point.toNat
    else '0' :: '.' :: zeros (-point) ++ ds
  else
    let power := point - 1
    let mark := if power < 0 then '-' else '+'
    let tail := if ds.length ≤ 1 then [] else '.' :: ds.drop 1
    ds.take 1 ++ tail ++ 'e' :: mark :: Nat.toDigits 10 power.natAbs

/-- The text of a number. -/
def Layout.text (layout : Layout) : Binary64 → String
  | nan => "NaN"
  | infinite negative => if negative then "-inf" else "inf"
  | finite negative m q =>
    let magnitude :=
      if m == 0 then '0' :: (if layout.keepsPoint then ['.', '0'] else [])
      else layout.digits (shortest m q)
    String.ofList (if negative then '-' :: magnitude else magnitude)

example : Layout.value.text (ofDecimal false 1 (-1)) = "0.1" := by decide +kernel
example : Layout.value.text (ofDecimal false 15 (-7)) = "1.5e-6" := by decide +kernel
example : Layout.positional.text (ofDecimal false 1 21) = "1000000000000000000000" := by
  decide +kernel

end ClientForge.Binary64
