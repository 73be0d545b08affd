/-
  The body of a generated method puts the query behind the path.

  The pairs are collected in a local list, parameter by parameter.  A required parameter always adds its
  pair, an optional one only if there is something to add: a list is asked whether it has an item, and a
  single value is taken out of its option by a pattern.  Then a function puts the pairs behind the path.

  1. **One parameter** (`exec_queryStatement`).  There are four statements, by whether the parameter is
     a list and whether it is required, and each adds exactly the pair that the endpoint describes
     (`queryPair?`).  The pattern binds a name of its own for its block, which hides nothing that the
     block needs.
  2. **All of them** (`execAll_queryStatement`).  While the pairs are collected the bindings are those
     of the arguments with the two locals in front (`collecting`), so each statement finds what the one
     before has left.
  3. **The call** (`exec_appendQuery`).  The function is called by a plain name, and a parameter with
     this very identifier hides it.  Then the call means the argument, and the body means nothing.

  The third is a condition on the names of parameters that nothing guards, so it stays in the statement
  about the whole (`execAll_queryStatements`): with it the query is put behind the path, and without it
  there is no request.
-/
import ClientForge.Proofs.Request.Path

namespace ClientForge

open ClientForge.Code ClientForge.Sdk

variable {α : Type} {lib : Library α} {graph : Graph}

/-! ## The query -/

/-- A pair of the query as a value. -/
def pairValue (pair : String × String) : Value α := .pair (.text pair.1) (.text pair.2)

/-- The bindings while the query is collected. -/
def collecting (path : String) (pairs : List (String × String)) (env : Env α) : Env α :=
  ⟨"query", true, .list (pairs.map pairValue)⟩ :: ⟨"path", true, .text path⟩ :: env

/-- The locals hide no parameter. -/
theorem Slot.Held.collecting {env : Env α} {slot : Slot α} (h : slot.Held graph env)
    (path : String) (pairs : List (String × String)) :
    slot.Held graph (collecting path pairs env) :=
  (h.cons path_reserved).cons query_reserved

/-- A pair more in the local list. -/
theorem update_collecting {env : Env α} (path : String) (pairs : List (String × String))
    (pair : String × String) :
    Env.update "query" (Value.appendItem (pairValue pair)) (collecting path pairs env) =
      some (collecting path (pairs ++ [pair]) env) := by
  rw [collecting, Env.update_cons_self, Value.appendItem, collecting, List.map_append]
  rfl

/-- The statement that adds a pair. -/
theorem exec_pushPair {env : Env α} {key text : String} {e : Expr}
    (he : eval lib e env = some (.text text)) :
    exec lib (pushPair key e) env =
      env.update "query" (Value.appendItem (pairValue (key, text))) := by
  have hkey : eval lib (.text key) env = some (.text key) := by rw [eval]
  have hpair : eval lib (.tuple [.text key, e]) env = some (pairValue (key, text)) := by
    rw [eval, evalAll, hkey, evalAll_singleton he]
    rfl
  rw [pushPair, exec_run, effect_pushItem, hpair, Option.bind_some]

/-- The condition for a list that may be left out. -/
theorem eval_notEmpty {env : Env α} {ident : String} {items : List (Value α)}
    (hbound : env.lookup ident = some (.list items)) :
    eval lib (.raw ("!" ++ ident ++ ".is_empty()")) env = some (.bool !items.isEmpty) := by
  have hne : "!" ++ ident ++ ".is_empty()" ≠ "None::<&()>" := by
    intro heq
    have hlist := congrArg String.toList heq
    rw [String.toList_append, String.toList_append] at hlist
    have hbang : "!".toList = ['!'] := by decide
    have hnone : "None::<&()>".toList.head? = some 'N' := by decide
    rw [← hlist, hbang] at hnone
    cases hnone
  rw [eval, rawValue, if_neg hne, between?_append, Option.bind_some, hbound]

/-- The pattern binds one name. -/
theorem patternVariable?_some : patternVariable? "Some(value)" = some "value" :=
  between?_append "Some(" ")" "value"

/-- A required parameter always has a pair. -/
theorem queryPair?_required {field : Field} (hrequired : field.required = true)
    (value : Value α) :
    queryPair? lib graph (field, value) =
      some (field.key, fieldWireText lib graph field value) := by
  simp only [queryPair?, hrequired, if_true]

/-- An optional list has one if it has an item. -/
theorem queryPair?_list {field : Field} (hrequired : field.required = false)
    (items : List (Value α)) :
    queryPair? lib graph (field, .list items) =
      if items.isEmpty then none
      else some (field.key, fieldWireText lib graph field (.list items)) := by
  simp only [queryPair?, hrequired, Bool.false_eq_true, if_false]

/-- An optional value has one unless it is missing. -/
theorem queryPair?_option {field : Field} (hrequired : field.required = false)
    (inner : Option (Value α)) :
    queryPair? lib graph (field, .option inner) =
      inner.map fun v => (field.key, fieldWireText lib graph field v) := by
  simp only [queryPair?, hrequired, Bool.false_eq_true, if_false]

/-- The statement for a list adds the pair unless the list is optional and has no item. -/
theorem exec_queryStatement_list {env : Env α} {slot : Slot α} (h : slot.Held graph env)
    (harray : slot.field.isArray = true) (path : String) (pairs : List (String × String)) :
    exec lib (queryStatement graph slot.field slot.ident) (collecting path pairs env) =
      some (collecting path (pairs ++ (queryPair? lib graph slot.given).toList) env) := by
  obtain ⟨items, hvalue, hfits⟩ := h.items harray
  have hheld := h.collecting path pairs
  have hident : eval lib (.ident slot.ident) (collecting path pairs env) = some (.list items) := by
    rw [← hvalue]
    exact hheld.eval_ident
  -- The pair is pushed in the same way in both branches.
  have hpush : exec lib (pushPair slot.field.key (listText (wireKind graph slot.field.type.element)
      (.ident slot.ident))) (collecting path pairs env) = some (collecting path (pairs ++
        [(slot.field.key, lib.listWireText (wireKind graph slot.field.type.element) items)])
        env) := by
    rw [exec_pushPair (eval_listText hfits hident), update_collecting]
  rw [Slot.given, hvalue]
  unfold queryStatement
  rw [harray, if_pos rfl]
  -- A required list is always pushed; an optional one only if it has items.
  cases hrequired : slot.field.required with
  | true =>
    rw [queryPair?_required hrequired, fieldWireText_list harray]
    exact hpush
  | false =>
    have hbound : (collecting path pairs env).lookup slot.ident = some (.list items) := by
      rw [← hvalue]
      exact hheld.bound
    rw [queryPair?_list hrequired, fieldWireText_list harray]
    dsimp only
    rw [if_neg Bool.false_ne_true, exec_when (eval_notEmpty hbound)]
    cases hempty : items.isEmpty with
    | true => simp
    | false =>
      rw [execAll_cons, hpush, Option.bind_some, execAll_nil]
      simp [Env.leave_of_length, collecting]

/-- The statement for a single value adds the pair unless the value is missing. -/
theorem exec_queryStatement_scalar {env : Env α} {slot : Slot α} (h : slot.Held graph env)
    (harray : slot.field.isArray = false) (path : String) (pairs : List (String × String)) :
    exec lib (queryStatement graph slot.field slot.ident) (collecting path pairs env) =
      some (collecting path (pairs ++ (queryPair? lib graph slot.given).toList) env) := by
  have hident : eval lib (.ident slot.ident) (collecting path pairs env) = some slot.value :=
    (h.collecting path pairs).eval_ident
  unfold queryStatement
  rw [harray, if_neg Bool.false_ne_true]
  cases hrequired : slot.field.required with
  | true =>
    rw [Slot.given, queryPair?_required hrequired, fieldWireText_scalar harray]
    dsimp only
    rw [if_pos rfl, exec_pushPair (eval_scalarText (h.fits harray hrequired) hident),
      update_collecting]
    rfl
  | false =>
    obtain ⟨inner, hvalue, hfits⟩ := h.optional harray hrequired
    rw [hvalue] at hident
    rw [Slot.given, hvalue, queryPair?_option hrequired]
    dsimp only
    rw [if_neg Bool.false_ne_true]
    cases inner with
    | none => simp [exec_whenMatches_none patternVariable?_some hident]
    | some v =>
      -- the value found stands in front of the locals, so the push passes over it
      have hfound : eval lib (.ident "value")
          (⟨"value", false, v⟩ :: collecting path pairs env) = some v := by
        rw [eval_ident (by decide)]
        exact Env.lookup_cons_self false v
      rw [exec_whenMatches_some patternVariable?_some hident, execAll_cons,
        exec_pushPair (eval_scalarText (hfits v rfl) hfound), Env.update_cons_of_ne (by simp),
        update_collecting, Option.map_some, Option.map_some, fieldWireText_scalar harray,
        Option.bind_some, execAll_nil]
      simp [Env.leave_cons, collecting]

/-- **A parameter adds its pair to the query,** if it has one. -/
theorem exec_queryStatement {env : Env α} {slot : Slot α} (h : slot.Held graph env)
    (path : String) (pairs : List (String × String)) :
    exec lib (queryStatement graph slot.field slot.ident) (collecting path pairs env) =
      some (collecting path (pairs ++ (queryPair? lib graph slot.given).toList) env) := by
  cases harray : slot.field.isArray with
  | true => exact exec_queryStatement_list h harray path pairs
  | false => exact exec_queryStatement_scalar h harray path pairs

/-- **The parameters add their pairs in order.** -/
theorem execAll_queryStatement {env : Env α} {row : List (Slot α)}
    (hheld : ∀ slot ∈ row, slot.Held graph env) (path : String)
    (pairs : List (String × String)) :
    execAll lib ((row.map Slot.named).map fun (field, ident) => queryStatement graph field ident)
        (collecting path pairs env) =
      some (collecting path (pairs ++ (row.map Slot.given).filterMap (queryPair? lib graph))
        env) := by
  induction row generalizing pairs with
  | nil => rw [List.map_nil, List.map_nil, execAll_nil, List.map_nil, List.filterMap_nil,
      List.append_nil]
  | cons slot rest ih =>
    have hrest : ∀ slot ∈ rest, slot.Held graph env :=
      fun slot hmem => hheld slot (List.mem_cons_of_mem _ hmem)
    rw [List.map_cons, List.map_cons, execAll_cons]
    show (exec lib (queryStatement graph slot.field slot.ident) _).bind _ = _
    rw [exec_queryStatement (hheld slot List.mem_cons_self), Option.bind_some, ih hrest,
      List.append_assoc, List.map_cons]
    cases hpair : queryPair? lib graph slot.given with
    | none => rw [List.filterMap_cons_none hpair, Option.toList_none, List.nil_append]
    | some pair => rw [List.filterMap_cons_some hpair, Option.toList_some, List.singleton_append]

/-- The two locals hide no function. -/
theorem shadows_collecting {env : Env α} (path : String) (pairs : List (String × String)) :
    (collecting path pairs env).shadows "append_query" = env.shadows "append_query" := by
  have hquery : "append_query" ≠ "query" := by decide
  have hpath : "append_query" ≠ "path" := by decide
  rw [Env.shadows, Env.shadows, collecting, Env.lookup_cons_of_ne hquery,
    Env.lookup_cons_of_ne hpath]

/-- The call that puts the query behind the path; it needs the function's name to be free. -/
theorem exec_appendQuery {env : Env α} (path : String) (pairs : List (String × String)) :
    exec lib (.run (.call "append_query" [.raw "&mut path", .borrow (.ident "query")]))
        (collecting path pairs env) =
      if env.shadows "append_query" then none
      else some (⟨"query", true, .list (pairs.map pairValue)⟩ ::
        ⟨"path", true, .text (Query.append path pairs)⟩ :: env) := by
  have hplace : between? "&mut " "" "&mut path" = some "path" := between?_append "&mut " "" "path"
  have hquery : eval lib (.borrow (.ident "query")) (collecting path pairs env) =
      some (.list (pairs.map pairValue)) := by
    rw [eval, eval_ident (by decide)]
    exact Env.lookup_cons_self _ _
  -- What was collected reads back as pairs, which is what the function is called with.
  have hpairs : (pairs.map pairValue : List (Value α)).mapM Value.pair? = some pairs := by
    have hpair : ∀ pair ∈ pairs, (Value.pair? ∘ (pairValue : _ → Value α)) pair = some (id pair) :=
      fun pair _ => rfl
    rw [List.mapM_map, mapM_some_map _ id pairs hpair, List.map_id]
  rw [exec_run, effect, shadows_collecting]
  -- A binding of that name hides the function, and then there is nothing to call.
  cases env.shadows "append_query" with
  | true => rfl
  | false =>
    rw [if_neg Bool.false_ne_true, if_neg Bool.false_ne_true, hplace, hquery]
    dsimp only
    rw [hpairs, Option.bind_some, collecting, Env.update_cons_of_ne (by simp),
      Env.update_cons_self]
    rfl

/-- **The query** is put behind the path, unless a parameter has the name of the function that does
it. -/
theorem execAll_queryStatements {env : Env α} {endpoint : Endpoint} {idents : List String}
    {row : List (Slot α)} (hheld : ∀ slot ∈ row, slot.Held graph env)
    (hrow : endpoint.queryParams.zip idents = row.map Slot.named)
    (hsome : endpoint.queryParams.isEmpty = false) (path : String) :
    let pairs := (row.map Slot.given).filterMap (queryPair? lib graph)
    execAll lib (queryStatements graph endpoint idents) (⟨"path", true, .text path⟩ :: env) =
      if env.shadows "append_query" then none
      else some (⟨"query", true, .list (pairs.map pairValue)⟩ ::
        ⟨"path", true, .text (Query.append path pairs)⟩ :: env) := by
  intro pairs
  have hnew : eval lib (.call "Vec::new" []) (⟨"path", true, .text path⟩ :: env) =
      some (.list []) := eval_call "Vec::new" (by decide) evalAll_nil
  unfold queryStatements
  rw [hsome, if_neg Bool.false_ne_true, hrow, List.cons_append, execAll_cons, exec_letIn, hnew,
    Option.map_some, Option.bind_some, execAll_append]
  show ((execAll lib _ (collecting path [] env)).bind _) = _
  rw [execAll_queryStatement hheld, Option.bind_some, List.nil_append, execAll_cons,
    exec_appendQuery]
  cases env.shadows "append_query" with
  | true => rfl
  | false => rfl

end ClientForge
