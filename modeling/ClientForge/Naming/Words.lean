/-
  Names made from arbitrary document text.

  Three spellings are produced: lowerCamel (`canonical`), UpperCamel (`exported`) and snake case
  (`snakeCase`).  All are total.  Text is taken apart into words at separators or at changes of
  case; the words `id`, `uri` and `url` keep their usual acronym spelling.
-/
import ClientForge.Text.Casing
import ClientForge.Text.Split

namespace ClientForge.Naming

open ClientForge.Text

/-! ## Camel case -/

/-- The acronym spelling of a lower-case word, if it is one of the acronyms or their plurals. -/
def acronym? (word : List Char) : Option String :=
  match String.ofList word with
  | "id" => some "ID"
  | "ids" => some "IDs"
  | "uri" => some "URI"
  | "uris" => some "URIs"
  | "url" => some "URL"
  | "urls" => some "URLs"
  | _ => none

/-- Whether the text has both an upper-case and a lower-case ASCII letter. -/
def isMixedCase (cs : List Char) : Bool := cs.any Char.isUpper && cs.any Char.isLower

/-- A hyphen, a point and a space separate words as the underscore does. -/
def asSeparator (c : Char) : Char := if c == '-' || c == '.' || c == ' ' then '_' else c

/-- A word that is not the first one: an acronym, or the word with its first letter raised. -/
def laterWord (word : List Char) : List Char :=
  match acronym? word with
  | some spelling => spelling.toList
  | none => capitalize word

/-- The lowerCamel form of a text.  A text that is camel-cased already keeps its inner casing. -/
def canonicalChars (cs : List Char) : List Char :=
  let marked := cs.map asSeparator
  if !marked.contains '_' && isMixedCase marked then uncapitalize marked
  else match split '_' (lower marked) with
    | [] => []
    | first :: later => first ++ later.flatMap laterWord

/-- The lowerCamel form of a text. -/
def canonical (text : String) : String := String.ofList (canonicalChars text.toList)

/-- The UpperCamel form of a text. -/
def exported (text : String) : String := String.ofList (capitalize (canonicalChars text.toList))

/-- The text with everything but ASCII letters and digits written as an underscore. -/
def asciiWords (text : String) : String :=
  String.ofList (text.toList.map fun c => if c.isAlphanum then c else '_')

/-- The UpperCamel form of the ASCII letters and digits of a text. -/
def exportedAscii (text : String) : String := exported (asciiWords text)

/-! ## Snake case -/

/-- Whether a capital between `prev` and `rest` begins a word: after a lower-case letter or a
digit, or as the last of a run of capitals before a lower-case letter, unless what follows is
only a plural `s`. -/
def beginsWord (prev : Char) (rest : List Char) : Bool :=
  let plural := rest.head? == some 's' && !(rest.tail.head?.any Char.isLower)
  prev.isLower || prev.isDigit || (prev.isUpper && rest.head?.any Char.isLower && !plural)

/-- Snake case of the characters after `prev`, `last` being the character written last. -/
def snakeFrom (prev last : Option Char) : List Char → List Char
  | [] => []
  | c :: rest =>
    if !c.isAlphanum then
      if last == some '_' then snakeFrom (some c) last rest
      else '_' :: snakeFrom (some c) (some '_') rest
    else
      let here := c.toLower :: snakeFrom (some c) (some c.toLower) rest
      if c.isUpper && prev.any (beginsWord · rest) && last.any (· != '_') then '_' :: here else here

/-- Whether the character is the word separator of snake case. -/
def isUnderscore (c : Char) : Bool := c == '_'

/-- The snake-case form of a text: lower-case runs joined by single underscores. -/
def snakeCase (text : String) : String :=
  let marked := snakeFrom none none text.toList
  String.ofList (dropEndWhile isUnderscore (marked.dropWhile isUnderscore))

example : canonical "created-at" = "createdAt" := by decide +kernel
example : exported "project_ids" = "ProjectIDs" := by decide +kernel
example : snakeCase "projectIDs" = "project_ids" := by decide +kernel

end ClientForge.Naming
