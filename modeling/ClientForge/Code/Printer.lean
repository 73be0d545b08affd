/-
  The text of generated code.

  Every decision about layout is made here: four spaces for a level, one line for a statement, a
  blank line between declarations.  A comment is printed line by line, each line behind its own
  mark, so no text of a comment can become code.
-/
import ClientForge.Code.Basic
import ClientForge.Code.Literal
import ClientForge.Text.Blank

namespace ClientForge.Code

/-! ## Lines -/

/-- The blanks in front of a line at a level. -/
def indentation (level : Nat) : String := String.ofList (List.replicate (4 * level) ' ')

/-- A line at a level. -/
def line (level : Nat) (text : String) : String := indentation level ++ text ++ "\n"

/-- The line of a comment that carries the characters, without those that are blank at its end. -/
def commentLine (cs : List Char) : String :=
  let kept := Text.trimEnd cs
  if kept.isEmpty then "///" else "/// " ++ String.ofList kept

/-- The lines of the comment for a text, without the white space around it. -/
def commentLines (text : String) : List String :=
  (Text.split '\n' (Text.trim text.toList)).map commentLine

/-- The comment for a text at a level. -/
def comment (level : Nat) (text : String) : String :=
  String.join ((commentLines text).map (line level))

/-- The comment for a text at a level, or nothing without one. -/
def comment? (level : Nat) (text : Option String) : String :=
  match text with
  | some text => comment level text
  | none => ""

/-! ## Types and expressions -/

/-- The text of a type. -/
def Ty.text : Ty → String
  | path name => name
  | vec item => "Vec<" ++ item.text ++ ">"
  | option inner => "Option<" ++ inner.text ++ ">"
  | box inner => "Box<" ++ inner.text ++ ">"
  | map value => "std::collections::HashMap<String, " ++ value.text ++ ">"
  | result value => "Result<" ++ value.text ++ ", Error>"
  | unit => "()"
  | selfRef => "&self"

/-- Whether an expression needs parentheses to have a method called on it. -/
def Expr.needsParens : Expr → Bool
  | borrow _ | deref _ | conditional .. | closure .. => true
  | _ => false

/-- Texts with a comma and a space between neighbours. -/
def commaJoined (texts : List String) : String := String.intercalate ", " texts

mutual

/-- The text of an expression. -/
def Expr.toText : Expr → String
  | .ident name => name
  | .text value => textLiteral value
  | .rawText value => rawLiteral value
  | .int n => signedText n
  | .float x => floatLiteral x
  | .bool b => boolLiteral b
  | .call callee args => callee ++ "(" ++ commaJoined (Expr.texts args) ++ ")"
  | .method receiver name args =>
    let on := if receiver.needsParens then "(" ++ receiver.toText ++ ")" else receiver.toText
    on ++ "." ++ name ++ "(" ++ commaJoined (Expr.texts args) ++ ")"
  | .borrow e => "&" ++ e.toText
  | .deref e => "*" ++ e.toText
  | .tuple items => "(" ++ commaJoined (Expr.texts items) ++ ")"
  | .bang name args =>
    if name == "vec" then "vec![" ++ commaJoined (Expr.texts args) ++ "]"
    else name ++ "!(" ++ commaJoined (Expr.texts args) ++ ")"
  | .conditional condition ifTrue ifFalse =>
    "if " ++ condition.toText ++ " \x7b " ++ ifTrue.toText ++ " \x7d else \x7b "
      ++ ifFalse.toText ++ " \x7d"
  | .closure param body => "|" ++ param ++ "| " ++ body.toText
  | .record name members => name ++ " \x7b " ++ commaJoined (Expr.memberTexts members) ++ " \x7d"
  | .slice items =>
    if items.isEmpty then "&[]"
    else "&[\n" ++ String.join ((Expr.texts items).map fun text => line 1 (text ++ ",")) ++ "]"
  | .raw code => code

/-- The texts of a row of expressions. -/
def Expr.texts : List Expr → List String
  | [] => []
  | e :: rest => e.toText :: Expr.texts rest

/-- The texts of the members of a record. -/
def Expr.memberTexts : List (String × Expr) → List String
  | [] => []
  | (name, e) :: rest => (name ++ ": " ++ e.toText) :: Expr.memberTexts rest

end

/-! ## Statements -/

mutual

/-- The text of a statement at a level. -/
def Stmt.textAt (level : Nat) : Stmt → String
  | .letIn name isMut type value =>
    let mark := if isMut then "mut " else ""
    let annotation := match type with
      | some type => ": " ++ type.text
      | none => ""
    line level ("let " ++ mark ++ name ++ annotation ++ " = " ++ value.toText ++ ";")
  | .run e => line level (e.toText ++ ";")
  | .tail e => line level e.toText
  | .when condition body =>
    line level ("if " ++ condition.toText ++ " \x7b") ++ Stmt.textsAt (level + 1) body
      ++ line level "\x7d"
  | .whenMatches pattern e body =>
    line level ("if let " ++ pattern ++ " = " ++ e.toText ++ " \x7b")
      ++ Stmt.textsAt (level + 1) body ++ line level "\x7d"

/-- The texts of a block at a level, one after the other. -/
def Stmt.textsAt (level : Nat) : List Stmt → String
  | [] => ""
  | s :: rest => s.textAt level ++ Stmt.textsAt level rest

end

/-- The text of a statement in the body of a method. -/
def Stmt.toText (s : Stmt) : String := s.textAt 2

/-! ## Functions -/

namespace Function

/-- The first line of a function without its opening brace. -/
def signature (f : Function) : String :=
  let receiver := if f.takesSelf then [Ty.selfRef.text] else []
  let params := receiver ++ f.params.map fun (name, type) => name ++ ": " ++ type.text
  let result := if f.result = .unit then "" else " -> " ++ f.result.text
  (if f.isPublic then "pub " else "") ++ "fn " ++ f.name ++ "(" ++ commaJoined params ++ ")"
    ++ result

/-- What stands in front of a function: its comment and its attributes. -/
def header (level : Nat) (f : Function) : String :=
  String.join (f.doc.map (comment level))
    ++ String.join (f.attributes.map fun a => line level ("#[" ++ a ++ "]"))

/-- The text of a function with its body. -/
def textAt (level : Nat) (f : Function) : String :=
  f.header level ++ line level (f.signature ++ " \x7b") ++ Stmt.textsAt (level + 1) f.body
    ++ line level "\x7d"

/-- The text of a function that is only declared. -/
def declarationAt (level : Nat) (f : Function) : String :=
  f.header level ++ line level (f.signature ++ ";")

end Function

/-! ## Items, declarations and modules -/

/-- The text of a member of a record type. -/
def Member.toText (m : Member) : String :=
  comment? 1 m.doc
    ++ (if m.serde.isEmpty then "" else line 1 ("#[serde(" ++ commaJoined m.serde ++ ")]"))
    ++ line 1 ("pub " ++ m.name ++ ": " ++ m.type.text ++ ",")

/-- The derivations of a record type. -/
def structDerives : String :=
  "#[derive(Debug, Clone, Default, PartialEq, serde::Serialize, serde::Deserialize)]"

/-- The derivations of a type of texts. -/
def textTypeDerives : String :=
  "#[derive(Debug, Clone, Default, PartialEq, Eq, Hash, serde::Serialize, serde::Deserialize)]"

/-- The text of an item. -/
def Item.toText : Item → String
  | typeAlias name type doc =>
    comment? 0 doc ++ line 0 ("pub type " ++ name ++ " = " ++ type.text ++ ";")
  | struct name doc members =>
    comment? 0 doc ++ line 0 structDerives ++ line 0 "#[serde(default)]"
      ++ line 0 ("pub struct " ++ name ++ " \x7b") ++ String.join (members.map Member.toText)
      ++ line 0 "\x7d"
  | textType name doc =>
    comment? 0 doc ++ line 0 textTypeDerives ++ line 0 "#[serde(transparent)]"
      ++ line 0 ("pub struct " ++ name ++ "(pub std::borrow::Cow<'static, str>);")
      ++ line 0 ""
      ++ line 0 ("impl " ++ name ++ " \x7b")
      ++ line 1 "pub fn as_str(&self) -> &str \x7b"
      ++ line 2 "&self.0"
      ++ line 1 "\x7d"
      ++ line 0 "\x7d"
      ++ line 0 ""
      ++ line 0 ("impl From<&'static str> for " ++ name ++ " \x7b")
      ++ line 1 "fn from(value: &'static str) -> Self \x7b"
      ++ line 2 "Self(std::borrow::Cow::Borrowed(value))"
      ++ line 1 "\x7d"
      ++ line 0 "\x7d"
  | constant name type value =>
    line 0 ("pub const " ++ name ++ ": " ++ type.text ++ " = " ++ value.toText ++ ";")

/-- The text of a declaration. -/
def Decl.toText : Decl → String
  | item i => i.toText
  | interface name doc methods =>
    comment? 0 doc ++ line 0 ("pub trait " ++ name ++ " \x7b")
      ++ String.intercalate "\n" (methods.map (Function.declarationAt 1)) ++ line 0 "\x7d"
  | implementation of target methods =>
    let head := match of with
      | some name => "impl " ++ name ++ " for " ++ target ++ " \x7b"
      | none => "impl " ++ target ++ " \x7b"
    line 0 head ++ String.intercalate "\n" (methods.map (Function.textAt 1)) ++ line 0 "\x7d"
  | function f => f.textAt 0

/-- The line of a module's own comment; wherever the mark would stand alone it has no blank. -/
def moduleCommentLine (text : String) : String :=
  String.ofList (Text.replaceAll "//! \n".toList "//!\n".toList ("//! " ++ text ++ "\n").toList)

/-- Lines with an empty one after them, or nothing at all. -/
def separated (lines : List String) : String :=
  if lines.isEmpty then "" else String.join lines ++ "\n"

/-- The text of a source file. -/
def Module.toText (m : Module) : String :=
  separated (m.doc.map moduleCommentLine)
    ++ separated (m.attributes.map fun a => line 0 ("#![" ++ a ++ "]"))
    ++ separated (m.uses.map fun path => line 0 ("use " ++ path ++ ";"))
    ++ String.intercalate "\n" (m.decls.map Decl.toText)

example : (Ty.option (.box (.path "Node"))).text = "Option<Box<Node>>" := by decide +kernel
example : commentLines " a \n\n b" = ["/// a", "///", "///  b"] := by decide +kernel

end ClientForge.Code
