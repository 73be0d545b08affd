/-
  Numbers, truth values and dates in TOML.

  All of them are words without quotes, so a word is read whole and must then be one of them.
  Only between a date and a time of day may a space stand for the mark between them.
-/
import ClientForge.Json.Reader
import ClientForge.Text.Split
import ClientForge.Toml.Basic

namespace ClientForge.Toml

/-- Whether the character can belong to such a word. -/
def isWordChar (c : Char) : Bool :=
  c.isAlphanum || c == '_' || c == '+' || c == '-' || c == '.' || c == ':'

/-! ## Whole numbers -/

/-- The digits of a row of digits with single underscores between them. -/
def digits? (isDigit : Char → Bool) (cs : List Char) : Option (List Char) :=
  let parts := Text.split '_' cs
  if parts.all fun part => !part.isEmpty && part.all isDigit then some parts.flatten else none

/-- A sign, and what follows it. -/
def sign : List Char → Option Bool × List Char
  | '+' :: cs => (some false, cs)
  | '-' :: cs => (some true, cs)
  | cs => (none, cs)

/-- The digits of a whole number: no zero before another digit. -/
def decimal? (cs : List Char) : Option (List Char) :=
  (digits? Char.isDigit cs).filter fun ds => ds.head? != some '0' || cs.length == 1

/-- Whether a number fits in 64 bits. -/
def fits (n : Int) : Bool := -Int.pow 2 63 ≤ n && n < Int.pow 2 63

/-- The value of digits in a base. -/
def valueIn (base : Nat) (digits : List Char) : Int :=
  digits.foldl (fun n d => base * n + (Json.hexValue? d).getD 0) 0

/-- The whole number that a word spells. -/
def integer? (cs : List Char) : Option Int :=
  let spelled : Option Int := match cs with
    | '0' :: 'x' :: ds => (digits? (fun d => (Json.hexValue? d).isSome) ds).map (valueIn 16)
    | '0' :: 'o' :: ds => (digits? (fun d => '0' ≤ d && d ≤ '7') ds).map (valueIn 8)
    | '0' :: 'b' :: ds => (digits? (fun d => d == '0' || d == '1') ds).map (valueIn 2)
    | cs =>
      let (negative, ds) := sign cs
      (decimal? ds).map fun ds => if negative == some true then -valueIn 10 ds else valueIn 10 ds
  spelled.filter fits

/-! ## Other numbers -/

/-- The exponent of a number, its digits made plain. -/
def exponent? : List Char → Option (List Char)
  | [] => some []
  | c :: cs =>
    if c == 'e' || c == 'E' then
      let (negative, ds) := sign cs
      (digits? Char.isDigit ds).map fun ds =>
        'e' :: (if negative == some true then ['-'] else []) ++ ds
    else none

/-- The plain spelling of a number with a point or an exponent. -/
def plainReal? (cs : List Char) : Option (List Char) := do
  let isPart (c : Char) : Bool := c.isDigit || c == '_'
  let whole ← decimal? (cs.takeWhile isPart)
  match cs.dropWhile isPart with
  | [] => none
  | '.' :: rest =>
    let fraction ← digits? Char.isDigit (rest.takeWhile isPart)
    let power ← exponent? (rest.dropWhile isPart)
    pure (whole ++ '.' :: fraction ++ power)
  | rest => (exponent? rest).map (whole ++ ·)

/-- The number with a point or an exponent that a word spells.  One that is too large is refused
if it is positive. -/
def real? (cs : List Char) : Option Binary64 :=
  let (negative, unsigned) := sign cs
  if unsigned == ['i', 'n', 'f'] then some (.infinite (negative == some true))
  else if unsigned == ['n', 'a', 'n'] then some .nan
  else
    ((plainReal? unsigned).bind fun plain => Binary64.ofText? (String.ofList plain)).bind fun x =>
      if x.isFinite then some (x.withSign (negative == some true))
      else if negative == some true then some (.infinite true)
      else none

/-! ## Dates and times -/

/-- The number of a row of digits. -/
def number (ds : List Char) : Nat := Binary64.digitsValue ds

/-- How many days a month has. -/
def monthLength (year month : Nat) : Nat :=
  if month == 2 then
    if year % 4 == 0 && (year % 100 != 0 || year % 400 == 0) then 29 else 28
  else if [4, 6, 9, 11].contains month then 30
  else 31

/-- Whether the text is a date. -/
def isDate : List Char → Bool
  | [y, y1, y2, y3, '-', m, m1, '-', d, d1] =>
    let year := number [y, y1, y2, y3]
    let month := number [m, m1]
    let day := number [d, d1]
    [y, y1, y2, y3, m, m1, d, d1].all Char.isDigit && 1 ≤ month && month ≤ 12 && 1 ≤ day
      && day ≤ monthLength year month
  | _ => false

/-- Whether two digits are a number up to `most`. -/
def isPair (most : Nat) (d d1 : Char) : Bool :=
  d.isDigit && d1.isDigit && number [d, d1] ≤ most

/-- What follows a time of day. -/
def afterTime? : List Char → Option (List Char)
  | h :: h1 :: ':' :: m :: m1 :: ':' :: s :: s1 :: rest =>
    if isPair 23 h h1 && isPair 59 m m1 && isPair 60 s s1 then
      match rest with
      | '.' :: fraction =>
        if (fraction.takeWhile Char.isDigit).isEmpty then none
        else some (fraction.dropWhile Char.isDigit)
      | rest => some rest
    else none
  | _ => none

/-- Whether the text is nothing or an offset from universal time. -/
def isOffset : List Char → Bool
  | [] => true
  | [c] => c == 'Z' || c == 'z'
  | [c, h, h1, ':', m, m1] => (c == '+' || c == '-') && isPair 23 h h1 && isPair 59 m m1
  | _ => false

/-- Whether the text is a time of day, with an offset or without. -/
def isOffsetTime (cs : List Char) : Bool := (afterTime? cs).any isOffset

/-- Whether the text is a date, a time of day or both. -/
def isMoment (cs : List Char) : Bool :=
  afterTime? cs == some []
    || (isDate (cs.take 10) && match cs.drop 10 with
      | [] => true
      | c :: time => (c == 'T' || c == 't' || c == ' ') && isOffsetTime time)

/-! ## Words -/

/-- What a word without quotes stands for. -/
def ofWord? (cs : List Char) : Option Toml :=
  if cs == ['t', 'r', 'u', 'e'] then some (.bool true)
  else if cs == ['f', 'a', 'l', 's', 'e'] then some (.bool false)
  else if isMoment cs then some (.moment (String.ofList cs))
  else match integer? cs with
    | some n => some (.integer n)
    | none => (real? cs).map .real

/-- The word that begins here, with a space and a second one where the first is a date, and what
follows. -/
def word (cs : List Char) : List Char × List Char :=
  let first := cs.takeWhile isWordChar
  let rest := cs.dropWhile isWordChar
  match rest with
  | ' ' :: more =>
    let second := more.takeWhile isWordChar
    if isDate first && !second.isEmpty then (first ++ ' ' :: second, more.dropWhile isWordChar)
    else (first, rest)
  | _ => (first, rest)

example : (ofWord? "1_000".toList).isSome = true := by decide +kernel
example : (ofWord? "01".toList).isNone = true := by decide +kernel
example : isMoment "2024-02-29 07:32:00Z".toList = true := by decide +kernel

end ClientForge.Toml
