/-
  A value is written on the wire as its kind says.

  In a path and in a query a value is written as plain text: a text as it is, a number as it is shown, a
  date in one layout, and what has no such form as JSON.  Which of these it is, is told by the kind of
  its type (`WireKind`), and the kind is found through names: a name for a scalar is written as the
  scalar.

  Generated code writes values in several places, and the expressions for it differ: one form gives a
  text of its own, one may borrow a text that is there, one is for the items of a list inside a closure.
  All of them give the one text of the value (`Library.wireText`), and with that lemma for each form the
  modules on paths and queries need not know which one stands where.

  A value that does not fit its kind has no such text.  `Fits` says which values do: for each kind those
  that the language would let a parameter of that type have.  Any value can be written as JSON, and a
  library that fails at it leaves the empty text.
-/
import ClientForge.Proofs.Ordered.Permutation
import ClientForge.Proofs.Request.Evaluation
import ClientForge.Sdk.Client

namespace ClientForge

open ClientForge.Code ClientForge.Sdk

variable {α : Type}

/-! ## Kinds -/

section Kinds

variable {graph : Graph} {token : TypeToken}

/-- A type with a scalar behind it is written as the scalar. -/
theorem wireKind_of_scalar {p : Primitive} (htext : isTextEnum graph token = false)
    (h : graph.scalarOf? token = some p) : wireKind graph token = .ofPrimitive p := by
  have hany : token ≠ .any := by
    rintro rfl
    cases h
  rw [wireKind, htext, if_neg Bool.false_ne_true, if_neg hany, h]

/-- Any other type is written as JSON, or shown if it is that of any value. -/
theorem wireKind_of_no_scalar (htext : isTextEnum graph token = false)
    (h : graph.scalarOf? token = none) :
    wireKind graph token = if token = .any then .display else .json := by
  rw [wireKind, htext, if_neg Bool.false_ne_true, h]

end Kinds

/-! ## Wire text -/

/-- The value is one of a type that is written in this way. -/
inductive Code.Value.Fits : Value α → WireKind → Prop where
  | text (s : String) : Fits (.text s) .text
  | textEnum (a : α) : Fits (.symbol a) .textEnum
  | display (a : α) : Fits (.shown a) .display
  | date (a : α) : Fits (.date a) .date
  | dateTime (a : α) : Fits (.time a) .dateTime
  | bool (b : Bool) : Fits (.bool b) .bool
  | json (value : Value α) : Fits value .json

/-- How a value is written on the wire. -/
def Code.Library.wireText (lib : Library α) (kind : WireKind) (value : Value α) : String :=
  match kind, value with
  | .text, .text s => s
  | .textEnum, .symbol a => lib.word a
  | .display, .shown a => lib.display a
  | .date, .date a => lib.format a "%Y-%m-%d"
  | .dateTime, .time a => lib.rfc3339 a
  | .bool, .bool b => if b then "true" else "false"
  | .json, value => (lib.json value).getD ""
  | _, _ => ""

/-- Written as JSON, a value is the text that the library gives. -/
theorem Code.Library.wireText_json {lib : Library α} {value : Value α} {text : String}
    (h : lib.json value = some text) : lib.wireText .json value = text := by
  show (lib.json value).getD "" = text
  rw [h]
  rfl

/-- How the items of a list are written, separated by commas. -/
def Code.Library.listWireText (lib : Library α) (kind : WireKind) (items : List (Value α)) :
    String :=
  ",".intercalate (items.map (lib.wireText kind))

/-! ## The code for it -/

section Code

variable {lib : Library α} {env : Env α} {kind : WireKind} {e : Expr} {value : Value α}

/-- A truth value, by a conditional. -/
theorem eval_boolWord {b : Bool} (he : eval lib e env = some (.bool b)) :
    eval lib (boolWord e) env = some (.text (if b then "true" else "false")) := by
  rw [boolWord, eval, he]
  cases b with
  | true =>
    show eval lib (.text "true") env = some (.text "true")
    rw [eval]
  | false =>
    show eval lib (.text "false") env = some (.text "false")
    rw [eval]

/-- A date, in its layout. -/
theorem eval_dateText {a : α} (he : eval lib e env = some (.date a)) :
    eval lib (dateText e) env = some (.text (lib.format a "%Y-%m-%d")) := by
  have hlaidOut : eval lib (.method e "format" [.text "%Y-%m-%d"]) env =
      some (.laidOut a "%Y-%m-%d") := eval_method_text he "format" "%Y-%m-%d"
  exact eval_method hlaidOut "to_string"

/-- A time, in whole seconds. -/
theorem eval_dateTimeText {a : α} (he : eval lib e env = some (.time a)) :
    eval lib (dateTimeText e) env = some (.text (lib.rfc3339 a)) := by
  have hargs : evalAll lib [.ident "chrono::SecondsFormat::Secs", .bool true] env =
      some [.seconds, .bool true] := by
    rw [evalAll, eval, if_pos rfl, evalAll_singleton (by rw [eval])]
    rfl
  rw [dateTimeText, eval, he, hargs]
  · rfl
  · intro param body heq
    cases heq

/-- Whatever the library writes. -/
theorem eval_jsonText (he : eval lib e env = some value) :
    eval lib (jsonText e) env = some (.text ((lib.json value).getD "")) := by
  have hwritten : eval lib (.call "serde_json::to_string" [e]) env =
      some (.written (lib.json value)) :=
    eval_call "serde_json::to_string" (by decide) (evalAll_singleton he)
  exact eval_method hwritten "unwrap_or_default"

/-- **An item of a list.** -/
theorem eval_itemText (hfits : value.Fits kind) (he : eval lib e env = some value) :
    eval lib (itemText kind e) env = some (.text (lib.wireText kind value)) := by
  cases hfits with
  | text s => exact eval_method he "to_string"
  | textEnum a => exact eval_method he "as_str"
  | display a => exact eval_method he "to_string"
  | date a => exact eval_dateText he
  | dateTime a => exact eval_dateTimeText he
  | bool b => exact eval_boolWord (by rw [eval, he])
  | json value => exact eval_jsonText he

/-- **A single value.** -/
theorem eval_scalarText (hfits : value.Fits kind) (he : eval lib e env = some value) :
    eval lib (scalarText kind e) env = some (.text (lib.wireText kind value)) := by
  cases hfits with
  | text s => exact he
  | textEnum a =>
    have hword : eval lib (.method e "as_str" []) env = some (.text (lib.word a)) :=
      eval_method he "as_str"
    exact eval_method hword "to_string"
  | display a => exact eval_method he "to_string"
  | date a => exact eval_dateText he
  | dateTime a => exact eval_dateTimeText he
  | bool b => exact eval_call "String::from" (by decide) (evalAll_singleton (eval_boolWord he))
  | json value => exact eval_jsonText (by rw [eval, he])

/-- Texts are joined with commas between them. -/
theorem eval_join {items : List (Value α)} {texts : List String}
    (htexts : items.mapM Value.text? = some texts) (he : eval lib e env = some (.list items)) :
    eval lib (.method e "join" [.text ","]) env = some (.text (",".intercalate texts)) := by
  rw [eval_method_text he "join" ","]
  show (items.mapM Value.text?).map _ = _
  rw [htexts]
  rfl

/-- The items of a list as texts; the closure's own binding hides whatever else is called `e`. -/
theorem eval_itemTexts {items : List (Value α)} (hfits : ∀ item ∈ items, item.Fits kind)
    (he : eval lib e env = some (.list items)) :
    eval lib (.method (.method (.method e "iter" []) "map"
        [.closure "e" (itemText kind (.ident "e"))]) "collect::<Vec<_>>" []) env =
      some (.list (items.map fun item => .text (lib.wireText kind item))) := by
  have hiter : eval lib (.method e "iter" []) env = some (.items items) := eval_method he "iter"
  have hitems : (items.mapM fun item => eval lib (itemText kind (.ident "e"))
      (⟨"e", false, item⟩ :: env)) =
        some (items.map fun item => .text (lib.wireText kind item)) := by
    apply mapM_some_map
    intro item hmem
    apply eval_itemText (hfits item hmem)
    rw [eval_ident (by decide)]
    exact Env.lookup_cons_self false item
  have hmap : eval lib (.method (.method e "iter" []) "map"
      [.closure "e" (itemText kind (.ident "e"))]) env =
        some (.items (items.map fun item => .text (lib.wireText kind item))) := by
    rw [eval, hiter]
    dsimp only
    rw [if_pos rfl, hitems, Option.map_some]
  exact eval_method hmap "collect::<Vec<_>>"

/-- **A list,** its items separated by commas. -/
theorem eval_listText {items : List (Value α)} (hfits : ∀ item ∈ items, item.Fits kind)
    (he : eval lib e env = some (.list items)) :
    eval lib (listText kind e) env = some (.text (lib.listWireText kind items)) := by
  unfold listText Library.listWireText
  by_cases hkind : kind = .text
  · have htexts : items.mapM Value.text? = some (items.map (lib.wireText kind)) := by
      apply mapM_some_map
      intro item hmem
      have hitem := hfits item hmem
      rw [hkind] at hitem ⊢
      cases hitem
      rfl
    rw [if_pos hkind]
    exact eval_join htexts he
  · have htexts : (items.map fun item => (Value.text (lib.wireText kind item) : Value α)).mapM
        Value.text? = some (items.map (lib.wireText kind)) := by
      rw [List.mapM_map]
      exact mapM_some_map _ _ _ fun item _ => rfl
    rw [if_neg hkind]
    exact eval_join htexts (eval_itemTexts hfits he)

end Code

end ClientForge
