/-
  Which notices are let through.

  A filter is a row of directives between commas.  Each limits the level for the parts whose name
  begins with a given text, or for all parts.  Of the directives for a part the one with the
  longest text decides; of two with one text the later.  A part for which there is no directive
  says nothing.  What is not a directive is passed over, and a filter without any lets only errors
  through.
-/
import ClientForge.Log.Basic
import ClientForge.Text.Blank
import ClientForge.Text.Casing

namespace ClientForge.Log

/-- A directive of a filter. -/
inductive Directive where
  /-- Lets through at most the level with that rank, from the parts whose name begins so. -/
  | limit (target : Option String) (rank : Nat)
  /-- Concerns a scope, of which there are none. -/
  | scope
deriving DecidableEq, Repr

/-! ## Reading directives -/

/-- The level names that a directive may use, with the rank of the last level let through. -/
def limitNames : List (String × Nat) :=
  [("off", 0), ("error", 1), ("warn", 2), ("info", 3), ("debug", 4), ("trace", 5)]

/-- The number that digits with an optional plus spell. -/
def unsigned? (cs : List Char) : Option Nat :=
  let digits := match cs with
    | '+' :: rest => rest
    | rest => rest
  if digits.isEmpty || !digits.all Char.isDigit then none
  else some (digits.foldl (fun n d => 10 * n + (d.toNat - '0'.toNat)) 0)

/-- The rank that a text names by number or name. -/
def rank? (cs : List Char) : Option Nat :=
  match (unsigned? cs).filter (· ≤ 5) with
  | some n => some n
  | none => limitNames.lookup (String.ofList (Text.lowerAscii cs))

/-- The rank after an equals sign; nothing there means everything. -/
def rankAfter? (cs : List Char) : Option Nat := if cs.isEmpty then some 5 else rank? cs

/-- Whether a directive can begin with the character. -/
def startsTarget (c : Char) : Bool :=
  c.isAlphanum || c == '-' || c == ':' || c == '_' || 0x80 ≤ c.toNat

/-- Whether the text from an opening bracket on describes a scope and perhaps a level. -/
def isScope (cs : List Char) : Bool :=
  let body := cs.drop 1
  let inner := body.takeWhile fun c => c != ']' && c != '\x7b'
  let tail := match body.drop inner.length with
    | '\x7b' :: fields =>
      let close := fields.dropWhile (· != '\x7d')
      if (fields.takeWhile (· != '\x7d')).isEmpty then [] else close.drop 1
    | rest => rest
  match tail with
  | [']'] => true
  | ']' :: '=' :: level => (rankAfter? level).isSome
  | _ => false

/-- The directive of a text.  White space around it is passed over when it is taken apart, but
its parts are counted off from the start of the text. -/
def directive? (text : List Char) : Option Directive :=
  let seen := Text.trim text
  let index := (seen.takeWhile fun c => c != '=' && c != '[').length
  match seen with
  | [] => none
  | '[' :: _ => if isScope seen then some .scope else none
  | c :: _ =>
    if !startsTarget c then none
    else match seen[index]? with
      | some '=' =>
        (rankAfter? (text.drop (index + 1))).map
          fun rank => .limit (some (String.ofList (text.take index))) rank
      | some _ => if isScope (seen.drop index) then some .scope else none
      | none => match rank? text with
        | some rank => some (.limit none rank)
        | none => some (.limit (some (String.ofList text)) 5)

/-! ## Filters -/

/-- A filter. -/
abbrev Filter := List Directive

/-- The filter that a text describes. -/
def Filter.ofText (text : String) : Filter :=
  match (Text.split ',' text.toList).filterMap directive? with
  | [] => [.limit none 1]
  | directives => directives

/-- The level for a count of requests to say more. -/
def verbosityLevel : Nat → Level
  | 0 => .info
  | 1 => .debug
  | _ => .trace

/-- The filter for a run: the setting if there is one, where the bare name of a level limits this
program only; else what the count of requests to say more asks for. -/
def Filter.ofSetting (setting : Option String) (verbosity : Nat) : Filter :=
  match setting with
  | none => [.limit (some rootTarget) (verbosityLevel verbosity).rank]
  | some text =>
    match Level.all.find? fun l =>
        Text.lowerAscii l.name.toList == Text.lowerAscii text.toList with
    | some level => [.limit (some rootTarget) level.rank]
    | none => ofText text

/-- How much a directive says about a part: nothing, or the length of the text it gives. -/
def Directive.weight? (target : String) : Directive → Option Nat
  | limit none _ => some 0
  | limit (some text) _ =>
    if text.toList.isPrefixOf target.toList then some (text.utf8ByteSize + 1) else none
  | scope => none

/-- The rank of the last level let through from a part, by the directives so far. -/
def Filter.rankFor (target : String) (filter : Filter) : Nat :=
  (filter.foldl (fun best directive =>
    match directive, directive.weight? target with
    | .limit _ rank, some weight => if best.1 ≤ weight then (weight, rank) else best
    | _, _ => best) (0, 0)).2

/-- Whether a notice is let through. -/
def Filter.shows (filter : Filter) (notice : Notice) : Bool :=
  notice.level.rank ≤ filter.rankFor notice.part.target

example : (Filter.ofText "openapi_sdkgen=info,openapi_sdkgen::writer=off").shows
    ⟨.files, .error⟩ = false := by decide +kernel
example : (Filter.ofSetting (some "WARN") 0).shows ⟨.code, .warn⟩ = true := by decide +kernel

end ClientForge.Log
