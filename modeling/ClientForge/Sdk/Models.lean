/-
  The types of the models.

  Every model becomes one type: a record, a type of texts with its constants, or another name for
  a type.  A record never holds itself by value: where a field or an embedded model leads back to
  its owner along by-value members, it is boxed.
-/
import ClientForge.Code.Literal
import ClientForge.Model.Reach
import ClientForge.Naming.Claims
import ClientForge.Naming.Identifier
import ClientForge.Sdk.Types
import ClientForge.Text.Split

namespace ClientForge.Sdk

open ClientForge.Code

/-! ## Enumerations -/

/-- The digits of a whole number of at most 64 bits with an optional sign. -/
def wholeNumber? (text : String) : Option Int :=
  let (negative, digits) := match text.toList with
    | '-' :: rest => (true, rest)
    | '+' :: rest => (false, rest)
    | rest => (false, rest)
  if digits.isEmpty || !digits.all Char.isDigit then none
  else
    let magnitude := digits.foldl (fun n c => 10 * n + (c.toNat - '0'.toNat)) 0
    let n : Int := if negative then -(magnitude : Int) else magnitude
    if -Int.pow 2 63 ≤ n && n < Int.pow 2 63 then some n else none

/-- The value of a literal of an enumeration of scalars that are no texts. -/
def literalValue? (scalar : Option Primitive) (literal : String) : Option Expr :=
  match scalar with
  | some .int32 | some .int64 | some .integer => (wholeNumber? literal).map Expr.int
  | some .float | some .double | some .number => (Binary64.ofText? literal).map Expr.float
  | some .boolean =>
    if literal == "true" then some (.bool true)
    else if literal == "false" then some (.bool false)
    else none
  | _ => none

/-- The value of a literal of an enumeration of texts. -/
def textValue (name literal : String) : Expr :=
  .call name [.call "std::borrow::Cow::Borrowed" [.text literal]]

/-- The constants for the literals with a value, under names that differ. -/
def constants (name : String) (values : List (String × Expr)) : List Item :=
  let idents := Names.empty.claimIdents (values.map fun (literal, _) =>
    Naming.constantName name literal)
  (idents.zip values).map fun (ident, _, value) => .constant ident (.path name) value

/-- The items of an enumeration. -/
def enumItems (graph : Graph) (model : Model) : List Item :=
  let literals := model.children.toList
  if model.isStringEnum then
    .textType model.name model.description
      :: constants model.name (literals.map fun l => (l, textValue model.name l))
  else
    let scalar := model.aliasOf.bind graph.scalarOf?
    let type := match model.aliasOf with
      | some token => typeOf graph token
      | none => .anyValue
    .typeAlias model.name type model.description
      :: constants model.name (literals.filterMap fun l =>
        (literalValue? scalar l).map fun value => (l, value))

/-! ## What is held by value -/

/-- How deep compositions and aliases are followed to see whether a model is a JSON object. -/
def embeddingDepth : Nat := 8

/-- Whether a model is a JSON object, as far as that many steps along compositions and aliases
show. -/
def embedsWithin (graph : Graph) (steps : Nat) (name : String) : Bool :=
  match graph.get? name with
  | none => false
  | some model => match model.shape, steps with
    | .struct, _ => true
    | .empty, _ => true
    | .plainAlias, steps => match model.aliasOf, steps with
      | some (.map _), _ => true
      | some (.named target), steps + 1 => embedsWithin graph steps target
      | _, _ => false
    | .composition, steps + 1 => model.children.toList.any (embedsWithin graph steps)
    | _, _ => false

/-- Whether a model can be embedded in another. -/
def embeds (graph : Graph) (name : String) : Bool := embedsWithin graph embeddingDepth name

/-- The children of a composition that are embedded in it. -/
def embedded (graph : Graph) (model : Model) : List String :=
  model.children.toList.filter (embeds graph)

/-- The models that a value of a model holds by value.  Lists and maps hold theirs elsewhere. -/
def heldByValue (graph : Graph) (model : Model) : List String :=
  match model.shape with
  | .struct => model.fields.values.filterMap fun field => match field.type with
    | .named name => some name
    | _ => none
  | .composition => embedded graph model
  | .plainAlias => match model.aliasOf with
    | some (.named name) => [name]
    | _ => []
  | _ => []

/-- Whether a value of the one model contains a value of the other. -/
def holds (graph : Graph) (owner target : String) : Bool :=
  graph.leadsTo (heldByValue graph) owner target

/-! ## Records -/

/-- What the `serde` attribute of an optional member says. -/
def optionalMark : String := "default, skip_serializing_if = \"Option::is_none\""

/-- The name of a member on the wire, for its attribute. -/
def renameMark (key : String) : String :=
  "rename = \"" ++ String.ofList (Text.replaceAll ['"'] ['\\', '"'] key.toList) ++ "\""

/-- The identifiers of the fields of a model, all different. -/
def fieldIdents (model : Model) : List String :=
  Names.empty.claimIdents (model.fields.values.mapIdx fun i field =>
    Naming.fieldIdentOr ("field_" ++ decimalText i) field.key)

/-- The type of a field, boxed where it leads back to its owner. -/
def fieldType (graph : Graph) (owner : String) (field : Field) : Ty :=
  let type := typeOf graph field.type
  let isCyclic := match field.type with
    | .named target => holds graph target owner
    | _ => false
  if isCyclic then .option (.box type)
  else if field.required then type
  else .option type

/-- The members of the record for a model with fields. -/
def fieldMembers (graph : Graph) (model : Model) : List Member :=
  ((fieldIdents model).zip model.fields.values).map fun (ident, field) =>
    let type := fieldType graph model.name field
    let rename := if Naming.withoutRawMark ident == field.key then [] else [renameMark field.key]
    let optional := if type.isOption then [optionalMark] else []
    { name := ident, type, doc := field.description, serde := rename ++ optional }

/-- The members of the record for a composition: its children, embedded. -/
def embeddedMembers (graph : Graph) (model : Model) : List Member :=
  let children := embedded graph model
  let idents := Names.empty.claimIdents (children.map (Naming.fieldIdentOr "inner"))
  (idents.zip children).map fun (ident, child) =>
    let type : Ty := if holds graph child model.name then .box (.path child) else .path child
    if model.union then
      { name := ident, type := .option type, serde := ["flatten", optionalMark] }
    else { name := ident, type, serde := ["flatten"] }

/-! ## Items -/

/-- The items of a model. -/
def modelItems (graph : Graph) (model : Model) : List Item :=
  let another (type : Ty) : List Item := [.typeAlias model.name type model.description]
  match model.shape with
  | .enumAlias => enumItems graph model
  | .plainAlias => another (match model.aliasOf with
    | some token => typeOf graph token
    | none => .anyValue)
  | .struct => [.struct model.name model.description (fieldMembers graph model)]
  | .composition =>
    let members := embeddedMembers graph model
    if members.isEmpty then another .anyValue
    else [.struct model.name model.description members]
  | .empty => another (.map .anyValue)

/-- The module of the models. -/
def modelsModule (graph : Graph) : Module where
  doc := ["Data types generated from the API document."]
  attributes := ["allow(non_upper_case_globals)"]
  decls := (graph.toList.flatMap (modelItems graph)).map Decl.item

end ClientForge.Sdk
