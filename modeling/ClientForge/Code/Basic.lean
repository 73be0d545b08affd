/-
  The part of Rust that generated code is made of.

  Types, expressions, statements, functions and items are trees; what they look like as text is
  the printer's business alone.  A few pieces that have no structure worth keeping are raw code.
-/
import ClientForge.Decimal.Binary64

namespace ClientForge.Code

/-- A type. -/
inductive Ty where
  /-- A type by its path, such as `i64` or `chrono::NaiveDate`. -/
  | path (name : String)
  | vec (item : Ty)
  | option (inner : Ty)
  | box (inner : Ty)
  /-- A map from text. -/
  | map (value : Ty)
  /-- A value of the type, or the crate's error. -/
  | result (value : Ty)
  | unit
  /-- The receiver of a method. -/
  | selfRef
deriving DecidableEq, Repr, Inhabited

/-- Whether the type is optional. -/
def Ty.isOption : Ty → Bool
  | option _ => true
  | _ => false

/-- The type of any JSON value. -/
def Ty.anyValue : Ty := path "serde_json::Value"

/-- An expression. -/
inductive Expr where
  /-- A name or a path. -/
  | ident (name : String)
  | text (value : String)
  /-- A text without escapes. -/
  | rawText (value : String)
  | int (n : Int)
  | float (x : Binary64)
  | bool (b : Bool)
  | call (callee : String) (args : List Expr)
  | method (receiver : Expr) (name : String) (args : List Expr)
  | borrow (e : Expr)
  | deref (e : Expr)
  | tuple (items : List Expr)
  /-- A call of the kind that is written with an exclamation mark. -/
  | bang (name : String) (args : List Expr)
  | conditional (condition ifTrue ifFalse : Expr)
  | closure (param : String) (body : Expr)
  /-- A record with its members. -/
  | record (name : String) (members : List (String × Expr))
  | slice (items : List Expr)
  /-- Code that is not taken apart. -/
  | raw (code : String)
deriving Inhabited, Repr

/-- A statement. -/
inductive Stmt where
  | letIn (name : String) (isMut : Bool) (type : Option Ty) (value : Expr)
  | run (e : Expr)
  /-- The value of the block. -/
  | tail (e : Expr)
  | when (condition : Expr) (body : List Stmt)
  /-- A block that runs if the value has the form of the pattern. -/
  | whenMatches (pattern : String) (e : Expr) (body : List Stmt)
deriving Inhabited, Repr

/-- A function or method. -/
structure Function where
  name : String
  /-- Texts of the comment in front; an empty one is an empty line of it. -/
  doc : List String := []
  attributes : List String := []
  isPublic : Bool := false
  takesSelf : Bool := false
  params : List (String × Ty) := []
  result : Ty := .unit
  body : List Stmt := []
deriving Inhabited, Repr

/-- A member of a record type. -/
structure Member where
  name : String
  type : Ty
  doc : Option String := none
  /-- What its `serde` attribute says. -/
  serde : List String := []
deriving Inhabited, Repr

/-- An item that defines a name. -/
inductive Item where
  | typeAlias (name : String) (type : Ty) (doc : Option String)
  | struct (name : String) (doc : Option String) (members : List Member)
  /-- A type of texts of its own. -/
  | textType (name : String) (doc : Option String)
  | constant (name : String) (type : Ty) (value : Expr)
deriving Inhabited, Repr

/-- The name that an item defines. -/
def Item.name : Item → String
  | typeAlias name .. => name
  | struct name .. => name
  | textType name _ => name
  | constant name .. => name

/-- A declaration of a module. -/
inductive Decl where
  | item (i : Item)
  /-- An interface with its methods, none of which has a body. -/
  | interface (name : String) (doc : Option String) (methods : List Function)
  /-- The methods of a type, possibly those of an interface. -/
  | implementation (interface : Option String) (target : String) (methods : List Function)
  | function (f : Function)
deriving Inhabited, Repr

/-- A source file. -/
structure Module where
  doc : List String := []
  attributes : List String := []
  /-- The paths it brings into scope. -/
  uses : List String := []
  decls : List Decl := []
deriving Inhabited, Repr

end ClientForge.Code
