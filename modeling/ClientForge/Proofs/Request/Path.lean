/-
  The body of a generated method puts the path together.

  The first statements of a body declare a local for the path and put the segments behind it, one after
  the other: literal text as it is, and for a placeholder the text of a parameter.

  The statements run where the arguments are bound.  What carries the proofs is that every parameter
  keeps its binding on the way (`Slot.Held`).  A slot is a parameter with its identifier and the value
  of its argument; it is held if looking the identifier up gives the value and no local has the name, so
  that a declaration in between changes nothing for it (`Slot.Held.cons`).

  1. The code for a segment gives the text that the endpoint describes for it (`eval_segmentText`): the
     placeholder's parameter is found by its key in both, and its value is written by the code for its
     kind.
  2. The segments are put behind the path one after the other (`execAll_pushSegments`).
  3. If the route begins with a literal the local starts with it, and otherwise it starts empty.  It is
     declared mutable only if something is put behind it, and that has to be so for the body to run at
     all (`execAll_letPath`).

  The whole is the route with its placeholders replaced (`execAll_pathStatements`).
-/
import ClientForge.Proofs.Request.Described
import ClientForge.Proofs.Request.Identifiers

namespace ClientForge

open ClientForge.Code ClientForge.Sdk

variable {α : Type} {lib : Library α} {graph : Graph}

/-! ## Parameters with their bindings -/

/-- A parameter, its identifier, and the value of its argument. -/
structure Slot (α : Type) where
  field : Field
  ident : String
  value : Value α

/-- The parameter with its identifier. -/
def Slot.named (slot : Slot α) : Field × String := (slot.field, slot.ident)

/-- The parameter with its value. -/
def Slot.given (slot : Slot α) : Field × Value α := (slot.field, slot.value)

/-- The parameters of a row with their identifiers and values. -/
def slots : List Field → List String → List (Value α) → List (Slot α)
  | field :: fields, ident :: idents, value :: values =>
    ⟨field, ident, value⟩ :: slots fields idents values
  | _, _, _ => []

/-- The argument is one that the parameter can have, and is bound to its identifier, which no local
of the body can take. -/
structure Slot.Held (graph : Graph) (env : Env α) (slot : Slot α) : Prop where
  admits : slot.field.Admits graph slot.value
  shaped : Naming.IdentShaped slot.ident
  free : slot.ident ∉ reservedNames
  bound : env.lookup slot.ident = some slot.value

namespace Slot.Held

variable {env : Env α} {slot : Slot α}

/-- **A local of the body hides no parameter.** -/
theorem cons {binding : Binding α} (h : slot.Held graph env)
    (hreserved : binding.name ∈ reservedNames) : slot.Held graph (binding :: env) where
  admits := h.admits
  shaped := h.shaped
  free := h.free
  bound := by
    have hne : slot.ident ≠ binding.name := fun heq => h.free (heq ▸ hreserved)
    rw [Env.lookup_cons_of_ne hne]
    exact h.bound

/-- The identifier of a parameter has the value of its argument. -/
theorem eval_ident (h : slot.Held graph env) :
    eval lib (.ident slot.ident) env = some slot.value := by
  have hpath : slot.ident ≠ "chrono::SecondsFormat::Secs" := by
    intro heq
    have hcolon : ¬ Naming.IdentShaped "chrono::SecondsFormat::Secs" := by decide
    exact hcolon (heq ▸ h.shaped)
  rw [Code.eval_ident hpath]
  exact h.bound

/-- The items of a parameter that is a list. -/
theorem items (h : slot.Held graph env) (harray : slot.field.isArray = true) :
    ∃ items, slot.value = .list items ∧
      ∀ item ∈ items, item.Fits (wireKind graph slot.field.type.element) := by
  have hadmits := h.admits
  rwa [Field.Admits, if_pos harray] at hadmits

/-- The value of a single required parameter is one of its type. -/
theorem fits (h : slot.Held graph env) (harray : slot.field.isArray = false)
    (hrequired : slot.field.required = true) :
    slot.value.Fits (wireKind graph slot.field.type) := by
  have hadmits := h.admits
  rwa [Field.Admits, harray, if_neg Bool.false_ne_true, if_pos hrequired] at hadmits

/-- The value of a single parameter that is not required may be missing. -/
theorem optional (h : slot.Held graph env) (harray : slot.field.isArray = false)
    (hrequired : slot.field.required = false) :
    ∃ inner, slot.value = .option inner ∧
      ∀ v ∈ inner, v.Fits (wireKind graph slot.field.type) := by
  have hadmits := h.admits
  rwa [Field.Admits, harray, if_neg Bool.false_ne_true, hrequired,
    if_neg Bool.false_ne_true] at hadmits

end Slot.Held

/-! ## The path -/

/-- A list is written item by item. -/
theorem fieldWireText_list {field : Field} (harray : field.isArray = true)
    (items : List (Value α)) :
    fieldWireText lib graph field (.list items) =
      lib.listWireText (wireKind graph field.type.element) items := by
  simp only [fieldWireText, harray]

/-- Anything else is written as a single value. -/
theorem fieldWireText_scalar {field : Field} (harray : field.isArray = false) (value : Value α) :
    fieldWireText lib graph field value = lib.wireText (wireKind graph field.type) value := by
  simp only [fieldWireText, harray]

/-- The code for a parameter in a path gives its text, one case for each kind of value. -/
theorem eval_pathText {env : Env α} {slot : Slot α} (h : slot.Held graph env)
    (hrequired : slot.field.required = true) :
    eval lib (pathText graph slot.field slot.ident) env =
      some (.text (fieldWireText lib graph slot.field slot.value)) := by
  have hident : eval lib (.ident slot.ident) env = some slot.value := h.eval_ident
  unfold pathText
  -- A list is joined by commas; anything else is written by the form of its type, one case each.
  cases harray : slot.field.isArray with
  | true =>
    obtain ⟨items, hvalue, hfits⟩ := h.items harray
    rw [hvalue] at hident ⊢
    rw [fieldWireText_list harray, if_pos rfl, eval]
    exact eval_listText hfits hident
  | false =>
    have hfits := h.fits harray hrequired
    rw [fieldWireText_scalar harray, if_neg Bool.false_ne_true]
    -- Only value and form matter from here on, so both are freed of the slot.
    generalize slot.value = value at hident hfits ⊢
    generalize wireKind graph slot.field.type = kind at hfits ⊢
    cases hfits with
    | text s =>
      rw [eval]
      exact hident
    | textEnum a => exact eval_itemText (.textEnum a) hident
    | display a =>
      rw [eval]
      exact eval_scalarText (.display a) hident
    | date a =>
      rw [eval]
      exact eval_dateText hident
    | dateTime a =>
      rw [eval]
      exact eval_dateTimeText hident
    | bool b => exact eval_boolWord hident
    | json value =>
      rw [eval]
      exact eval_jsonText (by rw [eval, hident])

/-- The text that the code for a segment gives. -/
theorem eval_segmentText {env : Env α} {row : List (Slot α)}
    (hheld : ∀ slot ∈ row, slot.Held graph env)
    (hrequired : ∀ slot ∈ row, slot.field.required = true) (segment : Segment) :
    eval lib (segmentText graph (row.map Slot.named) segment) env =
      some (.text (segmentWireText lib graph (row.map Slot.given) segment)) := by
  cases segment with
  | literal text => rw [segmentText, segmentWireText, eval]
  | param name =>
    simp only [segmentText, segmentWireText, List.find?_map]
    -- both sides look for the first parameter of the row with that key
    cases hfind : row.find? fun slot => slot.field.key == name with
    | none =>
      simp only [Function.comp_def, Slot.named, Slot.given, hfind, Option.map_none]
      rw [eval]
    | some slot =>
      have hmem := List.mem_of_find?_eq_some hfind
      simp only [Function.comp_def, Slot.named, Slot.given, hfind, Option.map_some]
      exact eval_pathText (hheld slot hmem) (hrequired slot hmem)

/-- The statement that puts a segment behind the path. -/
def pushSegment (graph : Graph) (bound : List (Field × String)) (segment : Segment) : Stmt :=
  .run (.method (.ident "path") "push_str" [segmentText graph bound segment])

/-- No parameter is called as the local for the path. -/
theorem path_reserved : "path" ∈ reservedNames := by decide

/-- No parameter is called as the local for the query. -/
theorem query_reserved : "query" ∈ reservedNames := by decide

/-- **The segments are put behind the path** one after the other. -/
theorem execAll_pushSegments {env : Env α} {row : List (Slot α)}
    (hheld : ∀ slot ∈ row, slot.Held graph env)
    (hrequired : ∀ slot ∈ row, slot.field.required = true) (segments : List Segment)
    (path : String) :
    execAll lib (segments.map (pushSegment graph (row.map Slot.named)))
        (⟨"path", true, .text path⟩ :: env) =
      some (⟨"path", true, .text (path ++ String.join
        (segments.map (segmentWireText lib graph (row.map Slot.given))))⟩ :: env) := by
  induction segments generalizing path with
  | nil => rw [List.map_nil, execAll_nil, List.map_nil, String.join_nil, String.append_empty]
  | cons segment rest ih =>
    have hpath : ∀ slot ∈ row, slot.Held graph (⟨"path", true, .text path⟩ :: env) :=
      fun slot hmem => (hheld slot hmem).cons path_reserved
    have hpush : exec lib (pushSegment graph (row.map Slot.named) segment)
        (⟨"path", true, .text path⟩ :: env) = some (⟨"path", true, .text (path ++
          segmentWireText lib graph (row.map Slot.given) segment)⟩ :: env) := by
      rw [pushSegment, exec_run, effect_pushText "path" (eval_segmentText hpath hrequired segment)]
      exact Env.update_cons_self
    rw [List.map_cons, execAll_cons, hpush, Option.bind_some, ih, List.map_cons, String.join_cons,
      String.append_assoc]

/-- The local `path` is mutable if anything is put behind it. -/
theorem execAll_letPath {env : Env α} {row : List (Slot α)}
    (hheld : ∀ slot ∈ row, slot.Held graph env)
    (hrequired : ∀ slot ∈ row, slot.field.required = true) {start : Expr} {path : String}
    (hstart : eval lib start env = some (.text path)) (segments : List Segment) (more : Bool) :
    let pushes := segments.map (pushSegment graph (row.map Slot.named))
    ∃ isMut, (more = true → isMut = true) ∧
      execAll lib (.letIn "path" (!pushes.isEmpty || more) none start :: pushes) env =
        some (⟨"path", isMut, .text (path ++ String.join
          (segments.map (segmentWireText lib graph (row.map Slot.given))))⟩ :: env) := by
  cases segments with
  | nil =>
    refine ⟨more, id, ?_⟩
    rw [List.map_nil, execAll_cons, exec_letIn, hstart, List.map_nil, String.join_nil,
      String.append_empty]
    rfl
  | cons segment rest =>
    refine ⟨true, fun _ => rfl, ?_⟩
    rw [execAll_cons, exec_letIn, hstart, Option.map_some, Option.bind_some]
    exact execAll_pushSegments hheld hrequired (segment :: rest) path

/-- **The path** is the route with its placeholders replaced. -/
theorem execAll_pathStatements {env : Env α} {endpoint : Endpoint} {idents : List String}
    {row : List (Slot α)} (hheld : ∀ slot ∈ row, slot.Held graph env)
    (hrequired : ∀ slot ∈ row, slot.field.required = true)
    (hrow : endpoint.pathParams.zip idents = row.map Slot.named) :
    ∃ isMut, ((!endpoint.queryParams.isEmpty) = true → isMut = true) ∧
      execAll lib (pathStatements graph endpoint idents) env =
        some (⟨"path", isMut, .text (String.join ((Route.segments endpoint.route).map
          (segmentWireText lib graph (row.map Slot.given))))⟩ :: env) := by
  have hfrom (text : String) :
      eval lib (.call "String::from" [.text text]) env = some (.text text) := by
    have htext : eval lib (.text text) env = some (.text text) := by rw [eval]
    exact eval_call "String::from" (by decide) (evalAll_singleton htext)
  have hnew : eval lib (.call "String::new" []) env = some (.text "") :=
    eval_call "String::new" (by decide) evalAll_nil
  have hbegin (segments : List Segment) :
      String.join (segments.map (segmentWireText lib graph (row.map Slot.given))) =
        "" ++ String.join (segments.map (segmentWireText lib graph (row.map Slot.given))) := by
    rw [String.empty_append]
  unfold pathStatements
  rw [hrow]
  -- a leading literal is what the path begins with, else it begins empty
  cases hsegments : Route.segments endpoint.route with
  | nil =>
    rw [hbegin]
    exact execAll_letPath hheld hrequired hnew [] _
  | cons segment rest => cases segment with
    | literal text =>
      rw [List.map_cons, String.join_cons]
      exact execAll_letPath hheld hrequired (hfrom text) rest _
    | param name =>
      rw [hbegin]
      exact execAll_letPath hheld hrequired hnew (.param name :: rest) _

end ClientForge
