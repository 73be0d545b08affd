/-
  The stand-in for a server: it answers from a table of fixtures.

  A path, cut at its question mark, is compared with each template segment by segment, where a
  segment with an opening brace matches anything.  Of the templates that match, the one with the
  most literal segments answers, and of several such the last.
-/
import ClientForge.Text.Split

namespace ClientForge.Client

/-- A canned answer for a route template and a method. -/
structure Canned where
  route : String
  method : String
  status : Nat
  body : String
deriving DecidableEq, Repr, Inhabited

namespace Mock

/-- How many literal segments match, if every segment does. -/
def scoreSegments : List (List Char) → List (List Char) → Option Nat
  | [], [] => some 0
  | template :: templates, segment :: segments =>
    if template.contains '\x7b' then scoreSegments templates segments
    else if template = segment then (scoreSegments templates segments).map (· + 1)
    else none
  | _, _ => none

/-- How many literal segments a template and a path share, if the template matches. -/
def routeScore (route path : String) : Option Nat :=
  scoreSegments (Text.split '/' route.toList) (Text.split '/' path.toList)

/-- The last of the best: the later of two candidates unless the earlier scores more. -/
def best (table : List (Nat × Canned)) : Option (Nat × Canned) :=
  table.foldl (fun found candidate => match found with
    | some kept => if candidate.1 < kept.1 then some kept else some candidate
    | none => some candidate) none

/-- The part of a path before its query. -/
def bare (path : String) : String := String.ofList (Text.firstPart '?' path.toList)

/-- The answer for a method and a path. -/
def lookup (table : List Canned) (method path : String) : Option Canned :=
  let candidates := (table.filter fun canned => canned.method == method).filterMap fun canned =>
    (routeScore canned.route (bare path)).map fun score => (score, canned)
  (best candidates).map Prod.snd

/-- The body for a route template and a method, null where there is none. -/
def bodyOf (table : List Canned) (route method : String) : String :=
  match table.find? fun canned => canned.route == route && canned.method == method with
  | some canned => canned.body
  | none => "null"

example : routeScore "/a/\x7bid\x7d" "/a/b" = some 2 := by decide +kernel

end Mock

end ClientForge.Client
