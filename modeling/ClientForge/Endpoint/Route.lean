/-
  Route templates: literal text with placeholders in braces.

  A placeholder runs from an opening brace to the next closing one, whatever stands between.  A
  closing brace outside a placeholder is literal text, and so is an opening brace that is never
  closed, as long as text follows it.
-/
namespace ClientForge

/-- A piece of a route template. -/
inductive Segment where
  /-- Text copied as it is. -/
  | literal (text : String)
  /-- A placeholder, without its braces. -/
  | param (name : String)
deriving DecidableEq, Repr

/-- The name of a placeholder segment. -/
def Segment.param? : Segment → Option String
  | .literal _ => none
  | .param name => some name

namespace Route

/-- A literal segment, unless its text is empty. -/
def literalSegment (cs : List Char) : List Segment :=
  if cs.isEmpty then [] else [.literal (String.ofList cs)]

/-- The segments of the remaining characters, `current` being the text of the segment begun and
`inside` whether it is a placeholder. -/
def segmentsFrom (inside : Bool) (current : List Char) : List Char → List Segment
  | [] =>
    if current.isEmpty then [] else literalSegment (if inside then '\x7b' :: current else current)
  | c :: cs =>
    if c == '\x7b' && !inside then literalSegment current ++ segmentsFrom true [] cs
    else if c == '\x7d' && inside then
      .param (String.ofList current) :: segmentsFrom false [] cs
    else segmentsFrom inside (current ++ [c]) cs

/-- The segments of a route template in order. -/
def segments (route : String) : List Segment := segmentsFrom false [] route.toList

/-- The placeholder names of a route in order. -/
def placeholders (route : String) : List String := (segments route).filterMap Segment.param?

example : segments "/a/\x7bb\x7d" = [.literal "/a/", .param "b"] := by decide +kernel

end Route

end ClientForge
