/-
  Identifiers of the generated Rust code.

  Component keys become type names, properties and parameters become snake-case identifiers, and
  the literals of an enumeration become constant names.  A name that is a keyword is written in
  raw form, or with an underscore where the language does not allow that.  The only failure is a
  text without a single letter or digit, which has no identifier at all.
-/
import ClientForge.Naming.Words
import ClientForge.Text.Quoted

namespace ClientForge.Naming

open ClientForge.Text

/-! ## Keywords -/

/-- The words that cannot be used as plain identifiers. -/
def keywords : List String := [
  "as", "async", "await", "break", "const", "continue", "crate", "dyn", "else", "enum", "extern",
  "false", "fn", "for", "gen", "if", "impl", "in", "let", "loop", "match", "mod", "move", "mut",
  "pub", "ref", "return", "self", "Self", "static", "struct", "super", "trait", "true", "type",
  "unsafe", "use", "where", "while", "abstract", "become", "box", "do", "final", "macro",
  "override", "priv", "typeof", "unsized", "virtual", "yield", "try"]

/-- The keywords that have no raw form. -/
def bareKeywords : List String := ["crate", "self", "Self", "super"]

/-- The mark of a raw identifier. -/
def rawMark : String := "r#"

/-- An identifier that may stand in code: a keyword in raw form, or with an underscore after it
where there is none. -/
def escapeKeyword (ident : String) : String :=
  if bareKeywords.contains ident then ident ++ "_"
  else if keywords.contains ident then rawMark ++ ident
  else ident

/-- The identifier without its raw marks. -/
def withoutRawMark (ident : String) : String :=
  let rec strip : List Char → List Char
    | 'r' :: '#' :: rest => strip rest
    | cs => cs
  String.ofList (strip ident.toList)

/-- Whether the character may stand inside an identifier. -/
def isIdentifierChar (c : Char) : Bool := c.isAlphanum || c == '_'

/-- Whether the characters are a plain identifier, keywords included. -/
def isIdentifierList : List Char → Bool
  | [] => false
  | c :: cs => (c.isAlpha || c == '_') && cs.all isIdentifierChar && !(c == '_' && cs.isEmpty)

/-- Whether the text is a plain identifier, keywords included. -/
def isIdentifier (name : String) : Bool := isIdentifierList name.toList

/-! ## Types -/

/-- The type name of a component key.  An identifier with a capital first is kept. -/
def typeName (key : String) : String :=
  if isIdentifier key && key.toList.head?.any Char.isUpper then key
  else
    let name := exportedAscii key
    if name.toList.head?.any Char.isDigit then "T" ++ name else name

/-- The name of a type found inside `parent` under the name `inner`. -/
def hoistedName (parent inner : String) : String := parent ++ exportedAscii inner

/-- The component a reference points to: what follows its last slash. -/
def referencedKey (reference : String) : String :=
  String.ofList (lastPart '/' reference.toList)

/-- The text with its first letter raised. -/
def capitalized (text : String) : String := String.ofList (capitalize text.toList)

/-- The text with its first letter lowered. -/
def uncapitalized (text : String) : String := String.ofList (uncapitalize text.toList)

/-- The name of the constant for a literal of an enumeration. -/
def constantName (owner literal : String) : String :=
  let ending := exportedAscii literal
  capitalized owner ++ (if ending.isEmpty then "Empty" else ending)

/-! ## Fields, parameters and methods -/

/-- Why a text gives no identifier. -/
inductive NamingError where
  /-- The text has no letter and no digit. -/
  | degenerate (text : String)
deriving DecidableEq, Repr

/-- The wording of the failure. -/
def NamingError.message : NamingError → String
  | degenerate text => "no identifier characters in " ++ quoted text

/-- The identifier of a field or parameter. -/
def fieldIdent (key : String) : Except NamingError String :=
  let snake := snakeCase key
  if snake.isEmpty then .error (.degenerate key)
  else if snake.toList.head?.any Char.isDigit then .ok ("_" ++ snake)
  else .ok (escapeKeyword snake)

/-- The identifier of a field or parameter, or `fallback` where it has none. -/
def fieldIdentOr (fallback key : String) : String :=
  match fieldIdent key with
  | .ok ident => ident
  | .error _ => fallback

/-- The name of an operation: its identifier with the first letter raised. -/
def endpointName (operationId : String) : String := capitalized operationId

/-- The identifier of an operation's method. -/
def methodIdent (name : String) : String :=
  let snake := snakeCase name
  if snake.isEmpty then "call" else escapeKeyword snake

example : typeName "project-list" = "ProjectList" := by decide +kernel
example : (fieldIdent "type").toOption = some "r#type" := by decide +kernel
example : constantName "State" "" = "StateEmpty" := by decide +kernel

end ClientForge.Naming
