/-
  The request that a generated test makes.

  A test calls the method of its endpoint with a value for each parameter: a text, the number one, the
  default of a date, an item for a list.  The arguments are expressions of the generated code, so what
  they mean has to be said before anything can be said of the request.

  1. **Meaning** (`Samples.value`).  What an expression means is told by the type of the parameter: the
     default of a model and that of a number are written alike.  An expression that is no value of the
     type has no meaning, so that a test whose arguments do not fit its method makes no request.
  2. **Libraries** (`Samples.Documented`).  What dates, numbers and models are is left to the
     libraries, of which only their documented answers are assumed: how the number one and the default
     of a date are written, and that a text which stands for one of an enumeration is written as it is.
  3. **Values that fit** (`Samples.Suits`).  Each value is one of its parameter's type and, unless it is
     written as JSON, stays within one segment of a path.  The two are shown together because both go
     by the same cases, one for each kind of scalar behind the type (`exists_scalar`, `exists_value`).
  4. **The request** (`GivesAll.requestOf_happyPath`).  The values fit the parameters one by one, so the
     call sends the request that the endpoint describes for them.

  An enumeration of texts gets the text `foo`, whether it has it or not; that is documented to be kept
  for a text it does not know.
-/
import ClientForge.Client.Mock
import ClientForge.Proofs.Graph.Lookup
import ClientForge.Proofs.Request.Sending
import ClientForge.Sdk.Tests

namespace ClientForge

open ClientForge.Code ClientForge.Sdk

/-! ## The values of a test -/

/-- What a test relies on without its being generated: the values that its arguments stand for. -/
structure Samples (α : Type) extends Library α where
  /-- A whole number. -/
  whole : Int → α
  /-- A number that need not be whole. -/
  real : Binary64 → α
  /-- The one of the enumeration of that name for a text. -/
  symbol : String → String → α
  /-- The date that is the default. -/
  day : α
  /-- The time that is the default. -/
  moment : α
  /-- The default of a type. -/
  default : Ty → Value α

namespace Samples

variable {α : Type}

/-- The libraries answer as they are documented to. -/
structure Documented (s : Samples α) : Prop where
  whole : ∀ n, s.display (s.whole n) = signedText n
  one : s.display (s.real (.ofNat false 1)) = "1"
  symbol : ∀ name text, s.word (s.symbol name text) = text
  day : s.format s.day "%Y-%m-%d" = "1970-01-01"
  moment : s.rfc3339 s.moment = "1970-01-01T00:00:00Z"
  /-- The default of any value is null. -/
  null : ∃ null, s.default .anyValue = .shown null ∧ s.display null = "null"

section Values

variable (s : Samples α)

/-- The value of an argument that is neither a list nor optional. -/
def literal : Expr → Option (Value α)
  | .method (.text t) "to_string" [] => some (.text t)
  | .int n => some (.shown (s.whole n))
  | .float x => some (.shown (s.real x))
  | .bool b => some (.bool b)
  | .call "chrono::NaiveDate::default" [] => some (.date s.day)
  | .call "chrono::DateTime::<chrono::Utc>::default" [] => some (.time s.moment)
  | .call callee [.text t] =>
    (between? "" "::from" callee).map fun name => .symbol (s.symbol name t)
  | _ => none

/-- The value of an argument where one of the type is wanted. -/
def value : Ty → Expr → Option (Value α)
  | .option type, .call "Some" [e] => (value type e).map fun v => .option (some v)
  | .vec type, .bang "vec" [e] => (value type e).map fun v => .list [v]
  | type, .ident "Default::default()" => some (s.default type)
  | .path _, e => s.literal e
  | _, _ => none

/-- The values of the arguments of a row, for the types of a row. -/
def values : List Ty → List Expr → Option (List (Value α))
  | [], [] => some []
  | type :: types, e :: es => do
    let v ← s.value type e
    let vs ← values types es
    pure (v :: vs)
  | _, _ => none

/-- The request of a call of the client's method. -/
def call (f : Function) : Expr → Option (Code.Request α)
  | .method (.ident "client") name args =>
    if name = f.name then (s.values (f.params.map Prod.snd) args).bind (f.send s.toLibrary)
    else none
  | _ => none

/-- The expression whose value a test binds to the name. -/
def bound? (name : String) (test : Function) : Option Expr :=
  test.body.findSome? fun stmt => match stmt with
    | .letIn found _ _ e => if found = name then some e else none
    | _ => none

/-- The request whose result a test looks at. -/
def requestOf (f test : Function) : Option (Code.Request α) :=
  (bound? "result" test).bind (s.call f)

end Values

/-- The payload that a test expects of the table, if it expects one. -/
def expectedBody? (table : List Client.Canned) (test : Function) : Option String :=
  (bound? "expected" test).bind fun e => match e with
    | .method (.ident "transport") "expected" [.text route, .text method] =>
      some (Client.Mock.bodyOf table route method)
    | _ => none

/-! ## Values that fit -/

/-- The text stays within one segment of a path: no slash ends the segment, and no question mark
the path. -/
def OneSegment (text : String) : Prop := '/' ∉ text.toList ∧ '?' ∉ text.toList

/-- Whether a text stays within its segment can be computed. -/
instance (text : String) : Decidable (OneSegment text) := inferInstanceAs (Decidable (_ ∧ _))

section Tokens

variable {s : Samples α} {graph : Graph} {token : TypeToken} {v : Value α}

/-- The value is one of the token's type, and unless it is written as JSON it stays within one
segment. -/
structure Suits (s : Samples α) (graph : Graph) (token : TypeToken) (v : Value α) : Prop where
  fits : v.Fits (wireKind graph token)
  oneSegment : wireKind graph token ≠ .json →
    OneSegment (s.wireText (wireKind graph token) v)

/-- A value suits by its kind and the text it is written as. -/
theorem Suits.of_wireText {kind : WireKind} {text : String} (hkind : wireKind graph token = kind)
    (hfits : v.Fits kind) (htext : s.wireText kind v = text) (h : OneSegment text) :
    s.Suits graph token v where
  fits := hkind ▸ hfits
  oneSegment _ := by
    rw [hkind, htext]
    exact h

/-- The number one stays within its segment. -/
theorem oneSegment_one : OneSegment (signedText 1) := by
  have hdigits := Naming.identShaped_decimalText (1 : Int).natAbs
  rw [signedText, if_neg (by decide), String.empty_append]
  exact ⟨fun hmem => absurd (hdigits _ hmem) (by decide),
    fun hmem => absurd (hdigits _ hmem) (by decide)⟩

/-- The default has a value for every type. -/
theorem value_default (s : Samples α) (type : Ty) :
    s.value type (.ident "Default::default()") = some (s.default type) := by
  cases type <;> rfl

/-- A number that need not be whole. -/
theorem value_float (s : Samples α) (name : String) (x : Binary64) :
    s.value (.path name) (.float x) = some (.shown (s.real x)) := rfl

/-- One of an enumeration, made from a text. -/
theorem literal_from (s : Samples α) (name text : String) :
    s.literal (.call (name ++ "::from") [.text text]) = some (.symbol (s.symbol name text)) := by
  have hname := between?_append "" "::from" name
  rw [String.empty_append] at hname
  simp [literal, hname]

/-- The type of a token is no option. -/
theorem typeOf_not_option (graph : Graph) (token : TypeToken) :
    (typeOf graph token).isOption = false := by
  cases token with
  | named name =>
    rw [typeOf]
    split <;> rfl
  | _ => rfl

/-- A token with a scalar behind it has a type with a name. -/
theorem typeOf_of_scalar {p : Primitive} (h : graph.scalarOf? token = some p) :
    ∃ name, typeOf graph token = .path name := by
  cases token with
  | primitive p => exact ⟨_, rfl⟩
  | named name =>
    rw [typeOf]
    split <;> exact ⟨_, rfl⟩
  | array item => cases h
  | map item => cases h
  | any => cases h

/-- **A single value** for a token that is no enumeration of texts. -/
theorem exists_scalar (hs : s.Documented) (htext : isTextEnum graph token = false) :
    ∃ v, s.value (typeOf graph token) (dummyScalar graph token) = some v ∧
      s.Suits graph token v := by
  unfold dummyScalar
  cases hscalar : graph.scalarOf? token with
  | none =>
    have hkind := wireKind_of_no_scalar htext hscalar
    refine ⟨_, value_default s _, ?_⟩
    by_cases hany : token = .any
    · obtain ⟨null, hnull, hdisplay⟩ := hs.null
      rw [if_pos hany] at hkind
      have htype : typeOf graph token = .anyValue := by rw [hany, typeOf]
      rw [htype, hnull]
      exact .of_wireText hkind (.display null) hdisplay (by decide)
    · rw [if_neg hany] at hkind
      exact ⟨hkind ▸ .json _, fun hne => absurd hkind hne⟩
  | some p =>
    have hkind := wireKind_of_scalar htext hscalar
    obtain ⟨name, htype⟩ := typeOf_of_scalar hscalar
    rw [htype]
    -- what is written is known for each scalar
    cases p with
    | string => exact ⟨_, rfl, .of_wireText hkind (.text "foo") rfl
        (by decide : OneSegment "foo")⟩
    | date => exact ⟨_, rfl, .of_wireText hkind (.date s.day) hs.day (by decide)⟩
    | dateTime => exact ⟨_, rfl, .of_wireText hkind (.dateTime s.moment) hs.moment (by decide)⟩
    | boolean => exact ⟨_, rfl, .of_wireText hkind (.bool true) rfl
        (by decide : OneSegment "true")⟩
    | int32 | int64 | integer =>
      exact ⟨_, rfl, .of_wireText hkind (.display _) (hs.whole 1) oneSegment_one⟩
    | float | double | number =>
      exact ⟨_, value_float s name _, .of_wireText hkind (.display _) hs.one (by decide)⟩

/-- **A test has a value for every type.** -/
theorem exists_value (hs : s.Documented) (graph : Graph) (token : TypeToken) :
    ∃ v, s.value (typeOf graph token) (dummyValue graph token) = some v ∧
      s.Suits graph token v := by
  -- A list holds one sample of its item; every other type is sampled without going further down.
  induction token with
  | array item ih =>
    obtain ⟨v, hv, -⟩ := ih
    refine ⟨.list [v], ?_, .json _, fun hne => absurd rfl hne⟩
    rw [typeOf, dummyValue, value, hv, Option.map_some]
  | named name =>
    rw [dummyValue]
    -- A value of a text enumeration is made from a text through its own type.
    by_cases htext : graph.isStringEnum name = true
    · have hkind : wireKind graph (.named name) = .textEnum := if_pos htext
      have hcontains : graph.contains name = true := by
        rw [Graph.isStringEnum, Option.any_eq_true] at htext
        obtain ⟨model, hmodel, -⟩ := htext
        exact Graph.contains_iff.2 ⟨model, hmodel⟩
      rw [if_pos htext, typeOf, if_pos hcontains]
      exact ⟨_, literal_from s name "foo",
        .of_wireText hkind (.textEnum _) (hs.symbol name "foo") (by decide)⟩
    · rw [if_neg htext]
      exact exists_scalar hs (Bool.eq_false_iff.2 htext)
  | primitive p => exact exists_scalar hs rfl
  | map item => exact exists_scalar hs rfl
  | any => exact exists_scalar hs rfl

end Tokens

/-! ## Arguments that fit -/

section Arguments

variable {s : Samples α} {graph : Graph}

/-- `s.Gives graph field v` — the test's argument for the parameter is this value. -/
def Gives (s : Samples α) (graph : Graph) (field : Field) (v : Value α) : Prop :=
  s.value (paramType graph field) (dummyArg graph field) = some v

/-- A parameter is given a value of its type, and in an option only where it may be missing. -/
theorem gives_iff {field : Field} {v : Value α} : s.Gives graph field v ↔
    ∃ single, s.value (typeOf graph field.type) (dummyValue graph field.type) = some single ∧
      v = if field.required || field.isArray then single else .option (some single) := by
  have hsingle := typeOf_not_option graph field.type
  unfold Gives dummyArg paramType
  dsimp only
  split
  · rw [hsingle, if_neg Bool.false_ne_true]
    simp [eq_comm]
  · rw [Ty.isOption, if_pos rfl, value, Option.map_eq_some_iff]
    simp [eq_comm]

/-- Every parameter is given a value. -/
theorem exists_gives (hs : s.Documented) (graph : Graph) (field : Field) :
    ∃ v, s.Gives graph field v := by
  obtain ⟨single, hsingle, -⟩ := exists_value hs graph field.type
  exact ⟨_, gives_iff.2 ⟨single, hsingle, rfl⟩⟩

/-- The value for a list has one item, which is a value for the type of its items. -/
theorem value_of_isArray (hs : s.Documented) (graph : Graph) {token : TypeToken}
    (h : token.isArray = true) :
    ∃ item, s.value (typeOf graph token) (dummyValue graph token) = some (.list [item]) ∧
      s.Suits graph token.element item := by
  cases token with
  | array item =>
    obtain ⟨v, hv, hsuits⟩ := exists_value hs graph item
    refine ⟨v, ?_, hsuits⟩
    rw [typeOf, dummyValue, value, hv, Option.map_some]
  | _ => cases h

/-- What is no list is written as a whole. -/
theorem element_of_not_isArray {token : TypeToken} (h : token.isArray = false) :
    token.element = token := by
  cases token with
  | array item => cases h
  | _ => rfl

/-- **A parameter can have the value that it is given.** -/
theorem Gives.admits {field : Field} {v : Value α} (hs : s.Documented)
    (h : s.Gives graph field v) : field.Admits graph v := by
  obtain ⟨single, hsingle, rfl⟩ := gives_iff.1 h
  unfold Field.Admits
  cases harray : field.isArray with
  | true =>
    obtain ⟨item, hitem, hsuits⟩ := value_of_isArray hs graph harray
    obtain rfl := Option.some.inj (hsingle.symm.trans hitem)
    rw [Bool.or_true, if_pos rfl, if_pos rfl]
    refine ⟨[item], rfl, fun other hmem => ?_⟩
    rw [List.mem_singleton.1 hmem]
    exact hsuits.fits
  | false =>
    obtain ⟨_, hfound, hsuits⟩ := exists_value hs graph field.type
    obtain rfl := Option.some.inj (hsingle.symm.trans hfound)
    rw [if_neg Bool.false_ne_true, Bool.or_false]
    cases field.required with
    | true => exact hsuits.fits
    | false =>
      refine ⟨some single, rfl, fun v hv => ?_⟩
      obtain rfl := Option.some.inj hv
      exact hsuits.fits

/-- **What is not written as JSON stays within one segment.** -/
theorem Gives.oneSegment {field : Field} {v : Value α} (hs : s.Documented)
    (h : s.Gives graph field v) (hrequired : field.required = true)
    (hjson : wireKind graph field.type.element ≠ .json) :
    OneSegment (fieldWireText s.toLibrary graph field v) := by
  obtain ⟨single, hsingle, rfl⟩ := gives_iff.1 h
  rw [hrequired, Bool.true_or, if_pos rfl]
  cases harray : field.isArray with
  | true =>
    obtain ⟨item, hitem, hsuits⟩ := value_of_isArray hs graph harray
    obtain rfl := Option.some.inj (hsingle.symm.trans hitem)
    rw [fieldWireText_list harray, Library.listWireText, List.map_singleton,
      String.intercalate_singleton]
    exact hsuits.oneSegment hjson
  | false =>
    obtain ⟨_, hfound, hsuits⟩ := exists_value hs graph field.type
    obtain rfl := Option.some.inj (hsingle.symm.trans hfound)
    rw [element_of_not_isArray harray] at hjson
    rw [fieldWireText_scalar harray]
    exact hsuits.oneSegment hjson

/-- `s.GivesAll graph endpoint args` — the arguments are those of the test. -/
structure GivesAll (s : Samples α) (graph : Graph) (endpoint : Endpoint) (args : Arguments α) :
    Prop where
  path : List.Forall₂ (s.Gives graph) endpoint.pathParams args.path
  query : List.Forall₂ (s.Gives graph) endpoint.queryParams args.query
  /-- For the body the default of its type, in an option unless the body is required. -/
  body : args.body = endpoint.request.map fun payload =>
    if payload.required then s.default (typeOf graph payload.type)
    else .option (some (s.default (typeOf graph payload.type)))

/-- Every endpoint has arguments for its test. -/
theorem exists_givesAll (hs : s.Documented) (graph : Graph) (endpoint : Endpoint) :
    ∃ args : Arguments α, s.GivesAll graph endpoint args := by
  have hrow (fields : List Field) : ∃ vs, List.Forall₂ (s.Gives graph) fields vs := by
    induction fields with
    | nil => exact ⟨[], .nil⟩
    | cons field rest ih =>
      obtain ⟨v, hv⟩ := exists_gives hs graph field
      obtain ⟨vs, hvs⟩ := ih
      exact ⟨v :: vs, .cons hv hvs⟩
  obtain ⟨path, hpath⟩ := hrow endpoint.pathParams
  obtain ⟨query, hquery⟩ := hrow endpoint.queryParams
  exact ⟨⟨path, query, _⟩, hpath, hquery, rfl⟩

/-- There is one row of arguments only. -/
theorem GivesAll.unique {endpoint : Endpoint} {args args' : Arguments α}
    (h : s.GivesAll graph endpoint args) (h' : s.GivesAll graph endpoint args') : args = args' := by
  have hgives : Relator.RightUnique (s.Gives graph) :=
    fun _ _ _ hv hv' => Option.some.inj (hv.symm.trans hv')
  have hpath := List.right_unique_forall₂' hgives h.path h'.path
  have hquery := List.right_unique_forall₂' hgives h.query h'.query
  have hbody := h.body.trans h'.body.symm
  cases args
  cases args'
  rw [Arguments.mk.injEq]
  exact ⟨hpath, hquery, hbody⟩

/-- The arguments of the test fit the method. -/
theorem GivesAll.fit {endpoint : Endpoint} {args : Arguments α} (hs : s.Documented)
    (h : s.GivesAll graph endpoint args) : args.Fit graph endpoint where
  path := h.path.imp fun _ _ => Gives.admits hs
  query := h.query.imp fun _ _ => Gives.admits hs
  body := by
    rw [h.body]
    cases endpoint.request with
    | none => rfl
    | some payload =>
      unfold bodyAdmits
      dsimp only [Option.map_some]
      split
      · exact ⟨_, rfl⟩
      · exact ⟨_, rfl⟩

/-- Arguments can be given row by row. -/
theorem values_append {types types' : List Ty} {es es' : List Expr} {vs vs' : List (Value α)}
    (h : s.values types es = some vs) (h' : s.values types' es' = some vs') :
    s.values (types ++ types') (es ++ es') = some (vs ++ vs') := by
  induction types generalizing es vs with
  | nil => cases es with
    | nil =>
      cases h
      exact h'
    | cons e es => cases h
  | cons type types ih => cases es with
    | nil => cases h
    | cons e es =>
      simp only [values, Option.bind_eq_bind, Option.bind_eq_some_iff] at h
      obtain ⟨v, hv, rest, hrest, heq⟩ := h
      cases heq
      simp only [List.cons_append, values, hv, ih hrest, Option.bind_eq_bind, Option.bind_some]
      rfl

/-- The values that parameters are given are those of the row. -/
theorem values_of_gives {fields : List Field} {vs : List (Value α)}
    (h : List.Forall₂ (s.Gives graph) fields vs) :
    s.values (fields.map (paramType graph)) (fields.map (dummyArg graph)) = some vs := by
  induction h with
  | nil => rfl
  | cons hv _ ih =>
    rw [List.map_cons, List.map_cons, values, hv, ih]
    rfl

/-- The body of the test, in an option unless it is required. -/
theorem value_dummyBody (s : Samples α) (graph : Graph) (payload : Payload) :
    s.value (bodyType graph payload) (dummyBody graph payload) =
      some (if payload.required then s.default (typeOf graph payload.type)
        else .option (some (s.default (typeOf graph payload.type)))) := by
  have hsingle := typeOf_not_option graph payload.type
  unfold dummyBody bodyType
  dsimp only
  split
  · rw [hsingle, if_neg Bool.false_ne_true, value_default]
  · rw [Ty.isOption, if_pos rfl, value, value_default, Option.map_some]

/-- The call gives the method its arguments. -/
theorem GivesAll.values {endpoint : Endpoint} {args : Arguments α}
    (h : s.GivesAll graph endpoint args) :
    s.values ((methodOf graph endpoint).params.map Prod.snd)
      (endpoint.params.map (dummyArg graph) ++ endpoint.request.toList.map (dummyBody graph)) =
        some args.toList := by
  -- Names and types are cut from one zip, which loses nothing since there is a name for each.
  have htypes : (methodOf graph endpoint).params.map Prod.snd =
      endpoint.params.map (paramType graph) ++
        endpoint.request.toList.map (bodyType graph) := by
    have hlength : (endpoint.params.map (paramType graph)).length ≤
        (paramIdents endpoint).length :=
      Nat.le_of_eq (by rw [length_paramIdents, List.length_map])
    rw [methodOf, List.map_append, List.map_snd_zip hlength, List.map_map]
    rfl
  -- The body is one value or none, as the request says.
  have hbody : s.values (endpoint.request.toList.map (bodyType graph))
      (endpoint.request.toList.map (dummyBody graph)) = some args.body.toList := by
    rw [h.body]
    cases endpoint.request with
    | none => rfl
    | some payload =>
      rw [Option.toList_some, List.map_singleton, List.map_singleton, Samples.values,
        value_dummyBody]
      rfl
  rw [htypes, Endpoint.params, List.map_append, List.map_append]
  exact values_append (values_append (values_of_gives h.path) (values_of_gives h.query)) hbody

end Arguments

/-! ## The request of the test -/

section Requests

variable {s : Samples α} {graph : Graph} {endpoint : Endpoint}

/-- A test looks at the result of its call. -/
theorem bound?_result (graph : Graph) (endpoint : Endpoint) :
    bound? "result" (happyPath graph endpoint) = some (dummyCall graph endpoint) := by
  unfold bound? happyPath testFunction
  by_cases hunit : responseType graph endpoint = .unit
  · simp [hunit, bindLocal]
  · simp [hunit, bindLocal]

/-- A test expects the payload of its own route and method, if its endpoint gives a value. -/
theorem expectedBody?_happyPath (table : List Client.Canned) (graph : Graph) (endpoint : Endpoint) :
    expectedBody? table (happyPath graph endpoint) =
      if responseType graph endpoint = .unit then none
      else some (Client.Mock.bodyOf table endpoint.route endpoint.method.name) := by
  unfold expectedBody? bound? happyPath testFunction
  by_cases hunit : responseType graph endpoint = .unit
  · simp [hunit, bindLocal]
  · simp [hunit, bindLocal]

/-- **The test makes the request that its endpoint describes** for its arguments. -/
theorem GivesAll.requestOf_happyPath {args : Arguments α} (hs : s.Documented)
    (h : s.GivesAll graph endpoint args)
    (hrequired : ∀ field ∈ endpoint.pathParams, field.required = true)
    (hfree : endpoint.queryParams ≠ [] → "append_query" ∉ paramIdents endpoint) :
    s.requestOf (methodOf graph endpoint) (happyPath graph endpoint) =
      some (described s.toLibrary graph endpoint args) := by
  have hfit := h.fit hs
  have hcall : s.call (methodOf graph endpoint) (dummyCall graph endpoint) =
      (methodOf graph endpoint).send s.toLibrary args.toList := by
    have hname : Naming.methodIdent endpoint.name = (methodOf graph endpoint).name := by
      rw [methodOf]
    rw [dummyCall, call, if_pos hname, h.values, Option.bind_some]
  rw [requestOf, bound?_result, Option.bind_some, hcall,
    send_eq_described graph hrequired hfit hfree]

end Requests

end Samples

end ClientForge
