/-
  Text as a list of characters: cutting it at a separator, joining the parts again, and
  replacing one text by another.

  Every function is structural recursion over the characters, so facts about it follow by the
  same induction.  The main statements: cutting gives at least one part, and joining the parts
  with the separator gives the text back.
-/
namespace ClientForge.Text

/-! ## Cutting and joining -/

/-- The parts between the occurrences of `sep`; a text without it is one part. -/
def split (sep : Char) : List Char → List (List Char)
  | [] => [[]]
  | c :: cs =>
    if c = sep then [] :: split sep cs
    else match split sep cs with
      | [] => [[c]]
      | word :: words => (c :: word) :: words

/-- The parts one after the other with `sep` between neighbours. -/
def join (sep : List Char) : List (List Char) → List Char
  | [] => []
  | [part] => part
  | part :: next :: rest => part ++ sep ++ join sep (next :: rest)

theorem split_ne_nil (sep : Char) (cs : List Char) : split sep cs ≠ [] := by
  cases cs with
  | nil => simp [split]
  | cons c cs =>
    simp only [split]
    split
    · simp
    · split <;> simp

/-- **Nothing is lost by a cut:** joining the parts with the separator gives the text back. -/
theorem join_split (sep : Char) (cs : List Char) : join [sep] (split sep cs) = cs := by
  induction cs with
  | nil => rfl
  | cons c cs ih =>
    simp only [split]
    split
    · rename_i h
      subst h
      cases hs : split c cs with
      | nil => exact absurd hs (split_ne_nil c cs)
      | cons word words => rw [hs] at ih; simp [join, ih]
    · cases hs : split sep cs with
      | nil => exact absurd hs (split_ne_nil sep cs)
      | cons word words =>
        rw [hs] at ih
        cases words with
        | nil => simpa [join] using ih
        | cons next rest => simpa [join] using ih

/-- The last part of a cut; a text without the separator is its own last part. -/
def lastPart (sep : Char) (cs : List Char) : List Char :=
  (split sep cs).getLast (split_ne_nil sep cs)

/-- The text before the first occurrence of `sep`, or all of it. -/
def firstPart (sep : Char) (cs : List Char) : List Char :=
  cs.takeWhile (· != sep)

/-! ## Searching and replacing -/

/-- Whether `pat` occurs anywhere in the text. -/
def hasInfix (pat : List Char) : List Char → Bool
  | [] => pat.isEmpty
  | c :: cs => pat.isPrefixOf (c :: cs) || hasInfix pat cs

/-- The text with each occurrence of `pat`, taken from the left, written as `new`; `skip` counts
the characters of an occurrence that are still to be passed over. -/
def replaceFrom (pat new : List Char) : Nat → List Char → List Char
  | _, [] => []
  | skip + 1, _ :: cs => replaceFrom pat new skip cs
  | 0, c :: cs =>
    if pat.isPrefixOf (c :: cs) then new ++ replaceFrom pat new (pat.length - 1) cs
    else c :: replaceFrom pat new 0 cs

/-- Every occurrence of `pat` written as `new`.  The empty text occurs before every character and
at the end. -/
def replaceAll (pat new cs : List Char) : List Char :=
  if pat.isEmpty then new ++ cs.flatMap (fun c => c :: new)
  else replaceFrom pat new 0 cs

/-- The text without the ending `suffix`, if it ends so. -/
def dropEnd? (suffix cs : List Char) : Option (List Char) :=
  if suffix.isSuffixOf cs then some (cs.take (cs.length - suffix.length)) else none

/-- The text without the characters at its end that satisfy `p`. -/
def dropEndWhile (p : Char → Bool) (cs : List Char) : List Char :=
  (cs.reverse.dropWhile p).reverse

example : split '/' ['a', '/', '/', 'b'] = [['a'], [], ['b']] := by decide
example : replaceAll ['-'] ['_'] ['a', '-', 'b'] = ['a', '_', 'b'] := by decide

end ClientForge.Text
