/-
  What the body of a generated method does when it runs.

  The generated code is kept as statements and expressions, and to say what a method sends these have
  to be run.  An expression is evaluated where some names are bound: to the arguments, to the locals
  declared so far, to the item of a closure, to what a pattern found.

  * **Names.**  A name is looked up by its text and the innermost binding counts.  A block gives up its
    own bindings at its end (`Env.leave`), and only what was declared as mutable can be changed.
    References are as good as what they refer to.  A name is its whole text, a mark `r#` included: two
    names that differ by the mark alone are two names here, although they are one identifier; whether
    there are such names is a question of its own (`scopes_differ_iff`), and no method that is said to
    run here is thereby said to compile.
  * **Functions.**  A call means the function of that name, unless a local has taken the name
    (`Env.shadows`).  A path, or a constructor, cannot be taken.
  * **Libraries.**  What models, dates and the JSON library do is not generated code.  It comes in as a
    `Library`, of which nothing is assumed.
  * **What is refused.**  A name that is not bound, a method that the value does not have, a change of
    something immutable and a function whose name a local has taken have no value here.  That a method
    sends something is thus more than that it would send the right thing if it did.

  Not all of the language is here, but all of it that generated bodies use: two shapes of code that are
  kept as raw text (`rawValue`), conditions, patterns for options, closures over lists.

  The equations behind each definition are what proofs about bodies use; they run a body statement by
  statement and never unfold the evaluation of a whole.
-/
import ClientForge.Client.Query
import ClientForge.Code.Basic

namespace ClientForge.Code

/-! ## Values -/

/-- A value; of an `α` only the libraries know what it is. -/
inductive Value (α : Type) where
  | text (s : String)
  | bool (b : Bool)
  /-- One of an enumeration of texts. -/
  | symbol (a : α)
  /-- A number, or anything else that has a text of its own. -/
  | shown (a : α)
  | date (a : α)
  | time (a : α)
  /-- A value that can only be written as JSON. -/
  | other (a : α)
  /-- A date with the layout in which it will be written. -/
  | laidOut (a : α) (layout : String)
  /-- The precision of whole seconds. -/
  | seconds
  /-- What writing a value as JSON gave. -/
  | written (outcome : Option String)
  | list (items : List (Value α))
  /-- The items of a list, one after the other. -/
  | items (items : List (Value α))
  | option (inner : Option (Value α))
  | pair (key value : Value α)
  /-- The client whose method runs. -/
  | client
deriving Inhabited

variable {α : Type}

/-- The text that a value is. -/
def Value.text? : Value α → Option String
  | .text s => some s
  | _ => none

/-- The pair of texts that a value is. -/
def Value.pair? : Value α → Option (String × String)
  | .pair (.text key) (.text value) => some (key, value)
  | _ => none

/-- What generated code relies on without being generated. -/
structure Library (α : Type) where
  /-- The text of one of an enumeration. -/
  word : α → String
  /-- The text that a value has of its own. -/
  display : α → String
  /-- A date in a layout. -/
  format : α → String → String
  /-- A time in whole seconds, in UTC. -/
  rfc3339 : α → String
  /-- A value as JSON, unless that fails. -/
  json : Value α → Option String

namespace Library

variable (lib : Library α)

/-- What a method of a value gives. -/
def method (name : String) (receiver : Value α) (args : List (Value α)) : Option (Value α) :=
  match name, receiver, args with
  | "to_string", .text s, [] => some (.text s)
  | "to_string", .shown a, [] => some (.text (lib.display a))
  | "to_string", .laidOut a layout, [] => some (.text (lib.format a layout))
  | "as_str", .symbol a, [] => some (.text (lib.word a))
  | "format", .date a, [.text layout] => some (.laidOut a layout)
  | "to_rfc3339_opts", .time a, [.seconds, .bool true] => some (.text (lib.rfc3339 a))
  | "unwrap_or_default", .written outcome, [] => some (.text (outcome.getD ""))
  | "iter", .list items, [] => some (.items items)
  | "collect::<Vec<_>>", .items items, [] => some (.list items)
  | "join", .list items, [.text separator] =>
    (items.mapM Value.text?).map fun texts => .text (separator.intercalate texts)
  | "as_ref", .option inner, [] => some (.option inner)
  | _, _, _ => none

/-- What a function gives, or a constructor. -/
def function (callee : String) (args : List (Value α)) : Option (Value α) :=
  match callee, args with
  | "String::from", [.text s] => some (.text s)
  | "String::new", [] => some (.text "")
  | "Vec::new", [] => some (.list [])
  | "Some", [inner] => some (.option (some inner))
  | "serde_json::to_string", [value] => some (.written (lib.json value))
  | _, _ => none

end Library

/-! ## Bindings -/

/-- A name with its value. -/
structure Binding (α : Type) where
  name : String
  isMut : Bool
  value : Value α

/-- The bindings in force, the innermost first. -/
abbrev Env (α : Type) := List (Binding α)

namespace Env

/-- The value of a name. -/
def lookup (name : String) : Env α → Option (Value α)
  | [] => none
  | binding :: rest => if binding.name = name then some binding.value else lookup name rest

/-- Changes the value of a name, if it may be changed. -/
def update (name : String) (change : Value α → Option (Value α)) : Env α → Option (Env α)
  | [] => none
  | binding :: rest =>
    if binding.name = name then
      if binding.isMut then
        (change binding.value).map fun value => { binding with value } :: rest
      else none
    else (update name change rest).map fun rest => binding :: rest

/-- Whether a local can have the name: a path has more than one part, and a constructor is written
with a capital letter. -/
def isPlainName (name : String) : Bool :=
  name.toList.all fun c => c.isLower || c.isDigit || c == '_'

/-- Whether a callee is a local and not the function meant. -/
def shadows (env : Env α) (callee : String) : Bool :=
  (lookup callee env).isSome && isPlainName callee

/-- The bindings of `outer` after a block that began with them and ended with `inner`. -/
def leave (outer inner : Env α) : Env α := inner.drop (inner.length - outer.length)

variable {env : Env α} {name : String}

/-- The innermost binding of a name gives its value. -/
theorem lookup_cons_self (isMut : Bool) (value : Value α) :
    lookup name (⟨name, isMut, value⟩ :: env) = some value := if_pos rfl

/-- Another name is looked up further out. -/
theorem lookup_cons_of_ne {binding : Binding α} (h : name ≠ binding.name) :
    lookup name (binding :: env) = lookup name env := if_neg (Ne.symm h)

/-- A name has a value if it is bound. -/
theorem isSome_lookup : (lookup name env).isSome = true ↔ name ∈ env.map Binding.name := by
  induction env with
  | nil => simp [lookup]
  | cons binding rest ih =>
    by_cases h : binding.name = name
    · simp [lookup, h]
    · simp [lookup, h, ih, Ne.symm h]

/-- In a row of bindings of different names every name has its own value. -/
theorem lookup_of_mem {names : List String} {values : List (Value α)} {value : Value α}
    (hnodup : names.Nodup) (h : (name, value) ∈ names.zip values) :
    lookup name ((names.zip values).map fun (n, v) => ⟨n, false, v⟩) = some value := by
  induction names generalizing values with
  | nil => cases h
  | cons first rest ih => cases values with
    | nil => cases h
    | cons held others =>
      obtain ⟨hfresh, hrest⟩ := List.nodup_cons.1 hnodup
      rw [List.zip_cons_cons] at h ⊢
      rw [List.map_cons]
      rcases List.mem_cons.1 h with heq | hmem
      · cases heq
        exact lookup_cons_self false value
      · -- the name stands among the others, so it is not the first one
        have hne : name ≠ first := fun heq => hfresh (heq ▸ (List.of_mem_zip hmem).1)
        rw [lookup_cons_of_ne hne]
        exact ih hrest hmem

/-- A mutable local is changed. -/
theorem update_cons_self {value : Value α} {change : Value α → Option (Value α)} :
    update name change (⟨name, true, value⟩ :: env) =
      (change value).map fun value => ⟨name, true, value⟩ :: env := by
  simp [update]

/-- A change of another name passes it by. -/
theorem update_cons_of_ne {binding : Binding α} {change : Value α → Option (Value α)}
    (h : name ≠ binding.name) :
    update name change (binding :: env) =
      (update name change env).map fun env => binding :: env := if_neg (Ne.symm h)

/-- A path or a constructor is never taken for a local. -/
theorem shadows_eq_false {callee : String} (h : isPlainName callee = false) :
    env.shadows callee = false := by
  rw [shadows, h, Bool.and_false]

/-- A block that declares nothing leaves all its bindings. -/
theorem leave_of_length {outer inner : Env α} (h : inner.length = outer.length) :
    leave outer inner = inner := by
  rw [leave, h, Nat.sub_self, List.drop_zero]

/-- A block that binds one name gives up that one. -/
theorem leave_cons {outer inner : Env α} {binding : Binding α}
    (h : inner.length = outer.length) : leave outer (binding :: inner) = inner := by
  rw [leave, List.length_cons, h, Nat.add_sub_cancel_left, List.drop_one, List.tail_cons]

end Env

/-! ## Raw code -/

/-- What stands between `start` and `stop` in a text. -/
def between? (start stop : String) (code : String) : Option String :=
  let cs := code.toList
  if start.toList.isPrefixOf cs && stop.toList.isSuffixOf (cs.drop start.length) then
    some (String.ofList ((cs.drop start.length).take (cs.length - start.length - stop.length)))
  else none

/-- What was put between two texts is found there. -/
theorem between?_append (start stop middle : String) :
    between? start stop (start ++ middle ++ stop) = some middle := by
  have hdrop : (start.toList ++ (middle.toList ++ stop.toList)).drop start.length =
      middle.toList ++ stop.toList := by
    rw [← String.length_toList, List.drop_left]
  have hlength : start.length + (middle.length + stop.length) - start.length - stop.length =
      middle.length := by omega
  unfold between?
  simp only [String.toList_append, List.append_assoc, hdrop, List.length_append,
    String.length_toList, hlength]
  have hstart : start.toList.isPrefixOf (start.toList ++ (middle.toList ++ stop.toList)) = true :=
    List.isPrefixOf_iff_prefix.2 (List.prefix_append _ _)
  have hstop : stop.toList.isSuffixOf (middle.toList ++ stop.toList) = true :=
    List.isSuffixOf_iff_suffix.2 (List.suffix_append _ _)
  rw [hstart, hstop, ← String.length_toList (s := middle), List.take_left]
  simp

/-- The variable of a pattern for a value that is there. -/
def patternVariable? (pattern : String) : Option String := between? "Some(" ")" pattern

/-- The value of raw code: no body at all, or whether a list has an item. -/
def rawValue (env : Env α) (code : String) : Option (Value α) :=
  if code = "None::<&()>" then some (.option none)
  else match (between? "!" ".is_empty()" code).bind fun name => env.lookup name with
    | some (.list items) => some (.bool !items.isEmpty)
    | _ => none

/-! ## Expressions -/

mutual

/-- The value of an expression. -/
def eval (lib : Library α) (e : Expr) (env : Env α) : Option (Value α) :=
  match e with
  | .ident name =>
    if name = "chrono::SecondsFormat::Secs" then some .seconds else env.lookup name
  | .text s => some (.text s)
  | .bool b => some (.bool b)
  | .borrow e => eval lib e env
  | .deref e => eval lib e env
  | .conditional condition ifTrue ifFalse =>
    match eval lib condition env with
    | some (.bool true) => eval lib ifTrue env
    | some (.bool false) => eval lib ifFalse env
    | _ => none
  | .tuple parts =>
    match evalAll lib parts env with
    | some [key, value] => some (.pair key value)
    | _ => none
  | .call callee args =>
    if env.shadows callee then none else (evalAll lib args env).bind (lib.function callee)
  | .method receiver name [.closure param body] =>
    match eval lib receiver env with
    | some (.items items) =>
      if name = "map" then
        (items.mapM fun item => eval lib body (⟨param, false, item⟩ :: env)).map Value.items
      else none
    | _ => none
  | .method receiver name args => do
    lib.method name (← eval lib receiver env) (← evalAll lib args env)
  | .raw code => rawValue env code
  | _ => none

/-- The values of the expressions of a row. -/
def evalAll (lib : Library α) (es : List Expr) (env : Env α) : Option (List (Value α)) :=
  match es with
  | [] => some []
  | e :: rest => do
    let value ← eval lib e env
    let values ← evalAll lib rest env
    pure (value :: values)

end

section Eval

variable {lib : Library α} {env : Env α} {e : Expr} {value : Value α}

/-- No expressions have no values. -/
theorem evalAll_nil : evalAll lib [] env = some [] := by rw [evalAll]

/-- One expression has one value. -/
theorem evalAll_singleton (he : eval lib e env = some value) :
    evalAll lib [e] env = some [value] := by
  rw [evalAll, he, evalAll_nil]
  rfl

/-- A name has the value that it is bound to. -/
theorem eval_ident {name : String} (hpath : name ≠ "chrono::SecondsFormat::Secs") :
    eval lib (.ident name) env = env.lookup name := by
  rw [eval, if_neg hpath]

/-- A method without arguments. -/
theorem eval_method (he : eval lib e env = some value) (name : String) :
    eval lib (.method e name []) env = lib.method name value [] := by
  rw [eval, he, evalAll_nil]
  · rfl
  · intro param body hargs
    cases hargs

/-- A method with a text as its argument. -/
theorem eval_method_text (he : eval lib e env = some value) (name text : String) :
    eval lib (.method e name [.text text]) env = lib.method name value [.text text] := by
  rw [eval, he, evalAll_singleton (by rw [eval])]
  · rfl
  · intro param body hargs
    cases hargs

/-- A function that is named by a path, or a constructor. -/
theorem eval_call (callee : String) {args : List Expr} {values : List (Value α)}
    (hplain : Env.isPlainName callee = false) (hargs : evalAll lib args env = some values) :
    eval lib (.call callee args) env = lib.function callee values := by
  rw [eval, Env.shadows_eq_false hplain, if_neg Bool.false_ne_true, hargs, Option.bind_some]

end Eval

/-! ## Statements -/

/-- The text with another one behind it. -/
def Value.appendText (added : String) : Value α → Option (Value α)
  | .text s => some (.text (s ++ added))
  | _ => none

/-- The list with one more item. -/
def Value.appendItem (added : Value α) : Value α → Option (Value α)
  | .list held => some (.list (held ++ [added]))
  | _ => none

/-- The path with the query of the pairs behind it. -/
def Value.appendQuery (pairs : List (String × String)) : Value α → Option (Value α)
  | .text path => some (.text (Query.append path pairs))
  | _ => none

/-- The bindings after an expression that is run for what it changes. -/
def effect (lib : Library α) (env : Env α) : Expr → Option (Env α)
  | .method (.ident target) "push_str" [e] =>
    match eval lib e env with
    | some (.text added) => env.update target (Value.appendText added)
    | _ => none
  | .method (.ident target) "push" [e] =>
    (eval lib e env).bind fun added => env.update target (Value.appendItem added)
  | .call "append_query" [.raw place, e] =>
    if env.shadows "append_query" then none
    else match between? "&mut " "" place, eval lib e env with
      | some target, some (.list items) =>
        (items.mapM Value.pair?).bind fun pairs => env.update target (Value.appendQuery pairs)
      | _, _ => none
  | _ => none

mutual

/-- The bindings after a statement. -/
def exec (lib : Library α) (stmt : Stmt) (env : Env α) : Option (Env α) :=
  match stmt with
  | .letIn name isMut _ e => (eval lib e env).map fun value => ⟨name, isMut, value⟩ :: env
  | .run e => effect lib env e
  | .when condition body =>
    match eval lib condition env with
    | some (.bool true) => (execAll lib body env).map env.leave
    | some (.bool false) => some env
    | _ => none
  | .whenMatches pattern e body =>
    match patternVariable? pattern, eval lib e env with
    | some name, some (.option (some value)) =>
      (execAll lib body (⟨name, false, value⟩ :: env)).map env.leave
    | some _, some (.option none) => some env
    | _, _ => none
  | .tail _ => none

/-- The bindings after the statements of a row. -/
def execAll (lib : Library α) (stmts : List Stmt) (env : Env α) : Option (Env α) :=
  match stmts with
  | [] => some env
  | stmt :: rest => (exec lib stmt env).bind (execAll lib rest)

end

section Exec

variable {lib : Library α} {env : Env α}

/-- A text is put behind a local. -/
theorem effect_pushText (target : String) {e : Expr} {added : String}
    (he : eval lib e env = some (.text added)) :
    effect lib env (.method (.ident target) "push_str" [e]) =
      env.update target (Value.appendText added) := by
  rw [effect, he]

/-- An item is put behind a local list. -/
theorem effect_pushItem (target : String) (e : Expr) :
    effect lib env (.method (.ident target) "push" [e]) =
      (eval lib e env).bind fun added => env.update target (Value.appendItem added) := rfl

/-- A declaration binds one name more. -/
theorem exec_letIn (name : String) (isMut : Bool) (type : Option Ty) (e : Expr) :
    exec lib (.letIn name isMut type e) env =
      (eval lib e env).map fun value => ⟨name, isMut, value⟩ :: env := rfl

/-- An expression is run for what it changes. -/
theorem exec_run (e : Expr) : exec lib (.run e) env = effect lib env e := rfl

/-- A condition decides whether its block is run, and the block gives up what it has bound. -/
theorem exec_when {condition : Expr} {holds : Bool}
    (hcondition : eval lib condition env = some (.bool holds)) (body : List Stmt) :
    exec lib (.when condition body) env =
      if holds then (execAll lib body env).map env.leave else some env := by
  rw [exec, hcondition]
  cases holds <;> rfl

/-- A pattern that finds something binds it for its block. -/
theorem exec_whenMatches_some {pattern name : String} {e : Expr} {value : Value α}
    (hpattern : patternVariable? pattern = some name)
    (he : eval lib e env = some (.option (some value))) (body : List Stmt) :
    exec lib (.whenMatches pattern e body) env =
      (execAll lib body (⟨name, false, value⟩ :: env)).map env.leave := by
  rw [exec, hpattern, he]

/-- A pattern that finds nothing passes its block over. -/
theorem exec_whenMatches_none {pattern name : String} {e : Expr}
    (hpattern : patternVariable? pattern = some name)
    (he : eval lib e env = some (.option none)) (body : List Stmt) :
    exec lib (.whenMatches pattern e body) env = some env := by
  rw [exec, hpattern, he]

/-- No statements leave the bindings as they are. -/
theorem execAll_nil : execAll lib [] env = some env := rfl

/-- Statements are run in their order. -/
theorem execAll_cons (stmt : Stmt) (rest : List Stmt) :
    execAll lib (stmt :: rest) env = (exec lib stmt env).bind (execAll lib rest) := rfl

end Exec

/-- Two rows of statements are run one behind the other. -/
theorem execAll_append (lib : Library α) (first second : List Stmt) (env : Env α) :
    execAll lib (first ++ second) env = (execAll lib first env).bind (execAll lib second) := by
  induction first generalizing env with
  | nil => rw [List.nil_append, execAll_nil, Option.bind_some]
  | cons stmt rest ih =>
    rw [List.cons_append, execAll_cons, execAll_cons, Option.bind_assoc]
    congr 1
    funext env
    exact ih env

/-! ## Methods -/

/-- What the client is asked to send. -/
structure Request (α : Type) where
  method : String
  path : String
  /-- The value sent as the body, if there is one. -/
  body : Option (Value α)

/-- The request that the last expression of a method sends. -/
def sent (lib : Library α) (env : Env α) : Expr → Option (Request α)
  | .method receiver "request_handler" [method, path, body] =>
    match eval lib receiver env, eval lib method env, eval lib path env, eval lib body env with
    | some .client, some (.text method), some (.text path), some (.option body) =>
      some ⟨method, path, body⟩
    | _, _, _, _ => none
  | _ => none

/-- The request that the statements of a method send with the last one. -/
def runBody (lib : Library α) : List Stmt → Env α → Option (Request α)
  | [], _ => none
  | [.tail e], env => sent lib env e
  | stmt :: rest, env => (exec lib stmt env).bind (runBody lib rest)

/-- A method runs all statements but the last, and sends with that. -/
theorem runBody_append_tail (lib : Library α) (stmts : List Stmt) (e : Expr) (env : Env α) :
    runBody lib (stmts ++ [.tail e]) env =
      (execAll lib stmts env).bind fun env => sent lib env e := by
  induction stmts generalizing env with
  | nil => rw [List.nil_append, runBody, execAll_nil, Option.bind_some]
  | cons stmt rest ih =>
    -- the statement is not the last one, so it is run even if it is an expression
    have hne : rest ++ [.tail e] ≠ [] := by simp
    rw [List.cons_append, runBody, execAll_cons, Option.bind_assoc]
    · congr 1
      funext env
      exact ih env
    · intro e' _ hnil
      exact hne hnil

namespace Function

/-- The names of a method's parameters, the receiver first. -/
def parameterNames (f : Function) : List String := "self" :: f.params.map Prod.fst

/-- The bindings with which a method of the client begins. -/
def frame (f : Function) (args : List (Value α)) : Env α :=
  (f.parameterNames.zip (.client :: args)).map fun (name, value) => ⟨name, false, value⟩

/-- The request that a method of the client sends when it is called. There is no such method if two
of its parameters have one name, and no such call without a value for each. Names are compared by
their text, `r#` and all: parameters whose identifiers differ by the mark alone, as
`scopes_differ_iff` has them, count as two here. -/
def send (lib : Library α) (f : Function) (args : List (Value α)) : Option (Request α) :=
  if f.takesSelf && decide f.parameterNames.Nodup && args.length == f.params.length then
    runBody lib f.body (f.frame args)
  else none

end Function

end ClientForge.Code
