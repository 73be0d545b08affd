/-
  A generated method sends the request that its endpoint describes.

  The request that an endpoint describes is read off the endpoint and the arguments; what a method sends
  is found by running its body.  Here the two are shown to be the same, for all values that the
  parameters can have.

  1. **Names.**  The parameters of a method have different names (`parameterNames_nodup`): the receiver,
     the path parameters, the query parameters, and one for the body.  So each argument is found under
     its name in the bindings that the method begins with (`lookup_frame`), and the parameters of each
     row are held by these (`held_slots`).
  2. **Statements.**  The path and then the query come out as described.  What they leave is the path in
     its local, in front of bindings under which the receiver and the body are found as before
     (`execAll_methodBody`).
  3. **Sending.**  The last expression sends the method, the path and the body.  An optional body is an
     option already, a required one is put into one, and without a body there is none
     (`eval_bodyArgument`).

  One name is not guarded: where a parameter is called `append_query` and there is a query, the function
  of that name is hidden and no request is sent.  The main result says for every endpoint which of the
  two it is (`Sdk.send_methodOf`), and there is no third case.
-/
import ClientForge.Proofs.Request.Query
import ClientForge.Proofs.Request.QueryText

namespace ClientForge

open ClientForge.Code ClientForge.Sdk

variable {α : Type} {lib : Library α} {graph : Graph}

/-! ## The arguments -/

/-- The slots of a row, with their identifiers and with their values. -/
theorem map_slots {fields : List Field} {idents : List String} {values : List (Value α)}
    (hidents : idents.length = fields.length) (hvalues : values.length = fields.length) :
    (slots fields idents values).map Slot.named = fields.zip idents ∧
      (slots fields idents values).map Slot.given = fields.zip values := by
  induction fields generalizing idents values with
  | nil => exact ⟨rfl, rfl⟩
  | cons field fields ih => cases idents with
    | nil => cases hidents
    | cons ident idents => cases values with
      | nil => cases hvalues
      | cons value values =>
        obtain ⟨hnamed, hgiven⟩ := ih (Nat.succ.inj hidents) (Nat.succ.inj hvalues)
        rw [slots, List.map_cons, List.map_cons, hnamed, hgiven]
        exact ⟨rfl, rfl⟩

/-- The parts of a slot stand at one place of the three rows. -/
theorem mem_slots {fields : List Field} {idents : List String} {values : List (Value α)}
    {admits : Field → Value α → Prop} (hadmits : List.Forall₂ admits fields values)
    {slot : Slot α} (h : slot ∈ slots fields idents values) :
    slot.field ∈ fields ∧ (slot.ident, slot.value) ∈ idents.zip values ∧
      admits slot.field slot.value := by
  induction hadmits generalizing idents with
  | nil => cases h
  | @cons field value fields values hfirst hrest ih => cases idents with
    | nil => cases h
    | cons ident idents =>
      rw [slots] at h
      rcases List.mem_cons.1 h with rfl | h
      · exact ⟨List.mem_cons_self, List.mem_cons_self, hfirst⟩
      · obtain ⟨hfield, hzip, hslot⟩ := ih h
        exact ⟨List.mem_cons_of_mem _ hfield, List.mem_cons_of_mem _ hzip, hslot⟩

/-! ## The method -/

section Method

variable {endpoint : Endpoint} {args : Arguments α}

/-- The identifiers of the path parameters. -/
def pathIdents (endpoint : Endpoint) : List String :=
  (paramIdents endpoint).take endpoint.pathParams.length

/-- The identifiers of the query parameters. -/
def queryIdents (endpoint : Endpoint) : List String :=
  (paramIdents endpoint).drop endpoint.pathParams.length

/-- The name of the argument for the body, where there is one. -/
def bodyNames (endpoint : Endpoint) : List String :=
  endpoint.request.toList.map fun _ => "body"

/-- There is an identifier for each path parameter. -/
theorem length_pathIdents (endpoint : Endpoint) :
    (pathIdents endpoint).length = endpoint.pathParams.length := by
  rw [pathIdents, List.length_take, length_paramIdents, Endpoint.params, List.length_append]
  omega

/-- There is an identifier for each query parameter. -/
theorem length_queryIdents (endpoint : Endpoint) :
    (queryIdents endpoint).length = endpoint.queryParams.length := by
  rw [queryIdents, List.length_drop, length_paramIdents, Endpoint.params, List.length_append]
  omega

/-- The parameters of a method, row by row. -/
theorem parameterNames_methodOf (graph : Graph) (endpoint : Endpoint) :
    (methodOf graph endpoint).parameterNames =
      "self" :: (pathIdents endpoint ++ queryIdents endpoint ++ bodyNames endpoint) := by
  have hlength : (paramIdents endpoint).length ≤
      (endpoint.params.map (paramType graph)).length :=
    Nat.le_of_eq (by rw [length_paramIdents, List.length_map])
  have hbody : (endpoint.request.toList.map fun payload => ("body", bodyType graph payload)).map
      Prod.fst = bodyNames endpoint := by
    rw [List.map_map]
    rfl
  rw [Function.parameterNames, methodOf, List.map_append, List.map_fst_zip hlength, hbody,
    pathIdents, queryIdents, List.take_append_drop]

/-- The identifiers are those of the two rows. -/
theorem mem_paramIdents_iff {ident : String} :
    ident ∈ paramIdents endpoint ↔ ident ∈ pathIdents endpoint ++ queryIdents endpoint := by
  rw [pathIdents, queryIdents, List.take_append_drop]

/-- **The parameters of a method have different names.** -/
theorem parameterNames_nodup (graph : Graph) (endpoint : Endpoint) :
    (methodOf graph endpoint).parameterNames.Nodup := by
  have hself : "self" ∈ reservedNames := by decide
  have hbody : "body" ∈ reservedNames := by decide
  have hbodies : ∀ name ∈ bodyNames endpoint, name = "body" := by
    intro name hmem
    obtain ⟨payload, -, rfl⟩ := List.mem_map.1 hmem
    rfl
  rw [parameterNames_methodOf, pathIdents, queryIdents, List.take_append_drop]
  refine List.nodup_cons.2
    ⟨fun hmem => ?_, List.nodup_append.2 ⟨paramIdents_nodup endpoint, ?_, ?_⟩⟩
  · rcases List.mem_append.1 hmem with hmem | hmem
    · exact paramIdents_not_reserved hmem hself
    · have heq := hbodies _ hmem
      revert heq
      decide
  · rw [bodyNames]
    cases endpoint.request <;> simp
  · intro ident hident name hname heq
    rw [heq, hbodies name hname] at hident
    exact paramIdents_not_reserved hident hbody

/-- The names of the parameters with their values, row by row. -/
theorem zip_parameterNames (graph : Graph) (hfit : args.Fit graph endpoint) :
    (methodOf graph endpoint).parameterNames.zip (.client :: args.toList) =
      ("self", .client) :: ((pathIdents endpoint).zip args.path ++
        (queryIdents endpoint).zip args.query ++ (bodyNames endpoint).zip args.body.toList) := by
  have hpath : (pathIdents endpoint).length = args.path.length := by
    rw [length_pathIdents, hfit.path.length_eq]
  have hquery : (queryIdents endpoint).length = args.query.length := by
    rw [length_queryIdents, hfit.query.length_eq]
  have hboth : (pathIdents endpoint ++ queryIdents endpoint).length =
      (args.path ++ args.query).length := by
    rw [List.length_append, List.length_append, hpath, hquery]
  rw [parameterNames_methodOf, Arguments.toList, List.zip_cons_cons, List.zip_append hboth,
    List.zip_append hpath]

/-- **Every argument is bound to its name.** -/
theorem lookup_frame (graph : Graph) (hfit : args.Fit graph endpoint) {name : String}
    {value : Value α} (h : (name, value) ∈ ("self", Value.client) ::
      ((pathIdents endpoint).zip args.path ++ (queryIdents endpoint).zip args.query ++
        (bodyNames endpoint).zip args.body.toList)) :
    Env.lookup name ((methodOf graph endpoint).frame args.toList) = some value := by
  rw [Function.frame]
  apply Env.lookup_of_mem (parameterNames_nodup graph endpoint)
  rw [zip_parameterNames graph hfit]
  exact h

/-- There is a value for each parameter. -/
theorem length_arguments (graph : Graph) (hfit : args.Fit graph endpoint) :
    args.toList.length = (methodOf graph endpoint).params.length := by
  have hnames := congrArg List.length (parameterNames_methodOf graph endpoint)
  -- The body is one argument or none, as the request's payload says.
  have hbody : (bodyNames endpoint).length = args.body.toList.length := by
    have hadmits := hfit.body
    unfold bodyAdmits at hadmits
    rw [bodyNames, List.length_map]
    cases hrequest : endpoint.request with
    | none =>
      rw [hrequest] at hadmits
      rw [hadmits]
      rfl
    | some payload =>
      rw [hrequest] at hadmits
      dsimp only at hadmits
      split at hadmits
      · obtain ⟨v, hv⟩ := hadmits
        rw [hv]
        rfl
      · obtain ⟨inner, hinner⟩ := hadmits
        rw [hinner]
        rfl
  rw [Function.parameterNames, List.length_cons, List.length_map, List.length_cons,
    List.length_append, List.length_append, length_pathIdents, length_queryIdents, hbody] at hnames
  rw [Arguments.toList, List.length_append, List.length_append, ← hfit.path.length_eq,
    ← hfit.query.length_eq]
  omega

/-- The name of the imported function is hidden exactly by a parameter of that name. -/
theorem shadows_frame (graph : Graph) (hfit : args.Fit graph endpoint) :
    Env.shadows ((methodOf graph endpoint).frame args.toList) "append_query" =
      decide ("append_query" ∈ paramIdents endpoint) := by
  have hplain : Env.isPlainName "append_query" = true := by decide
  -- The frame binds the parameters' names in order, the client's own first.
  have hnames : ((methodOf graph endpoint).frame args.toList).map Binding.name =
      (methodOf graph endpoint).parameterNames := by
    have hlength : (methodOf graph endpoint).parameterNames.length ≤
        (Value.client :: args.toList).length :=
      Nat.le_of_eq (by rw [Function.parameterNames, List.length_cons, List.length_cons,
        List.length_map, length_arguments graph hfit])
    rw [Function.frame, List.map_map]
    exact List.map_fst_zip hlength
  -- The body's name is another, so only the parameters can hide the function.
  have hbody : "append_query" ∉ bodyNames endpoint := by
    intro hmem
    obtain ⟨payload, -, heq⟩ := List.mem_map.1 hmem
    revert heq
    decide
  rw [Env.shadows, hplain, Bool.and_true, Bool.eq_iff_iff, Env.isSome_lookup, hnames,
    parameterNames_methodOf, decide_eq_true_iff, mem_paramIdents_iff]
  constructor
  · intro hmem
    rcases List.mem_cons.1 hmem with heq | hmem
    · exact absurd heq (by decide)
    · rcases List.mem_append.1 hmem with hmem | hmem
      · exact hmem
      · exact absurd hmem hbody
  · intro hmem
    exact List.mem_cons_of_mem _ (List.mem_append_left _ hmem)

/-- The parameters of a row are held by the bindings with which the method begins, if their
identifiers and values are among those of the method. -/
theorem held_slots (graph : Graph) (hfit : args.Fit graph endpoint) {fields : List Field}
    {idents : List String} {values : List (Value α)}
    (hadmits : List.Forall₂ (Field.Admits graph) fields values)
    (hidents : ∀ ident ∈ idents, ident ∈ pathIdents endpoint ++ queryIdents endpoint)
    (hzip : ∀ pair ∈ idents.zip values, pair ∈ (pathIdents endpoint).zip args.path ++
      (queryIdents endpoint).zip args.query) :
    ∀ slot ∈ slots fields idents values,
      slot.Held graph ((methodOf graph endpoint).frame args.toList) := by
  intro slot hmem
  obtain ⟨-, hpair, hadmit⟩ := mem_slots hadmits hmem
  have hident := mem_paramIdents_iff.2 (hidents slot.ident (List.of_mem_zip hpair).1)
  exact {
    admits := hadmit
    shaped := identShaped_paramIdents hident
    free := paramIdents_not_reserved hident
    bound := lookup_frame graph hfit
      (List.mem_cons_of_mem _ (List.mem_append_left _ (hzip _ hpair))) }

/-- The path parameters are held when the method begins. -/
theorem held_path (graph : Graph) (hfit : args.Fit graph endpoint) :
    ∀ slot ∈ slots endpoint.pathParams (pathIdents endpoint) args.path,
      slot.Held graph ((methodOf graph endpoint).frame args.toList) :=
  held_slots graph hfit hfit.path (fun _ hmem => List.mem_append_left _ hmem)
    fun _ hmem => List.mem_append_left _ hmem

/-- So are the query parameters. -/
theorem held_query (graph : Graph) (hfit : args.Fit graph endpoint) :
    ∀ slot ∈ slots endpoint.queryParams (queryIdents endpoint) args.query,
      slot.Held graph ((methodOf graph endpoint).frame args.toList) :=
  held_slots graph hfit hfit.query (fun _ hmem => List.mem_append_right _ hmem)
    fun _ hmem => List.mem_append_right _ hmem

/-! ## The body that is sent -/

/-- The body that is sent is the one described. -/
theorem eval_bodyArgument (graph : Graph) (hfit : args.Fit graph endpoint) {env : Env α}
    (henv : env.lookup "body" = Env.lookup "body" ((methodOf graph endpoint).frame args.toList)) :
    eval lib (bodyArgument endpoint.request) env =
      some (.option (describedBody endpoint.request args.body)) := by
  have hadmits := hfit.body
  unfold bodyAdmits at hadmits
  cases hrequest : endpoint.request with
  | none =>
    rw [bodyArgument, eval, rawValue, if_pos rfl]
    rfl
  | some payload =>
    -- The frame binds the name of the body to the argument that was given for it.
    have hbound (value : Value α) (hvalue : args.body = some value) :
        eval lib (.ident "body") env = some value := by
      rw [eval_ident (by decide), henv]
      apply lookup_frame graph hfit
      rw [bodyNames, hrequest, hvalue]
      exact List.mem_cons_of_mem _ (List.mem_append_right _ List.mem_cons_self)
    rw [hrequest] at hadmits
    dsimp only at hadmits
    unfold bodyArgument describedBody
    dsimp only
    -- A required body is passed by reference inside the option, an optional one as it stands.
    by_cases hrequired : payload.required = true
    · rw [if_pos hrequired] at hadmits
      rw [if_pos hrequired, if_pos hrequired]
      obtain ⟨v, hv⟩ := hadmits
      have hbody : eval lib (.borrow (.ident "body")) env = some v := by
        rw [eval]
        exact hbound v hv
      rw [eval_call "Some" (by decide) (evalAll_singleton hbody), hv]
      rfl
    · rw [if_neg hrequired] at hadmits
      rw [if_neg hrequired, if_neg hrequired]
      obtain ⟨inner, hinner⟩ := hadmits
      rw [eval_method (hbound (.option inner) hinner) "as_ref", hinner]
      rfl

/-! ## The request -/

/-- What the last expression sends, once the path is complete. -/
theorem sent_request (graph : Graph) (hfit : args.Fit graph endpoint) {env : Env α} {path : String}
    (hpath : env.lookup "path" = some (.text path))
    (hself : env.lookup "self" = Env.lookup "self" ((methodOf graph endpoint).frame args.toList))
    (hbody : env.lookup "body" = Env.lookup "body" ((methodOf graph endpoint).frame args.toList)) :
    sent lib env (.method (.ident "self") "request_handler"
        [.text endpoint.method.name, .borrow (.ident "path"), bodyArgument endpoint.request]) =
      some ⟨endpoint.method.name, path, describedBody endpoint.request args.body⟩ := by
  have hclient : eval lib (.ident "self") env = some .client := by
    rw [eval_ident (by decide), hself]
    exact lookup_frame graph hfit List.mem_cons_self
  have htext : eval lib (.borrow (.ident "path")) env = some (.text path) := by
    rw [eval, eval_ident (by decide)]
    exact hpath
  rw [sent, hclient, htext, eval_bodyArgument graph hfit hbody, eval]

/-- A call runs everything but the last expression for what it changes, and sends what that one
says. -/
theorem send_eq_bind (graph : Graph)
    (hlength : args.toList.length = (methodOf graph endpoint).params.length) :
    (methodOf graph endpoint).send lib args.toList =
      (execAll lib (pathStatements graph endpoint (pathIdents endpoint) ++
        queryStatements graph endpoint (queryIdents endpoint))
          ((methodOf graph endpoint).frame args.toList)).bind fun env =>
        sent lib env (.method (.ident "self") "request_handler"
          [.text endpoint.method.name, .borrow (.ident "path"),
            bodyArgument endpoint.request]) := by
  have hnodup := parameterNames_nodup graph endpoint
  simp only [Function.send, decide_eq_true hnodup, hlength, beq_self_eq_true, Bool.and_true]
  show runBody lib ((pathStatements graph endpoint (pathIdents endpoint) ++
    queryStatements graph endpoint (queryIdents endpoint)) ++ [.tail _]) _ = _
  exact runBody_append_tail ..

/-- What the statements before the last one leave: the path as described, and everything else as it
was. -/
theorem execAll_methodBody (graph : Graph) (hfit : args.Fit graph endpoint)
    (hrequired : ∀ field ∈ endpoint.pathParams, field.required = true) :
    let frame := (methodOf graph endpoint).frame args.toList
    (execAll lib (pathStatements graph endpoint (pathIdents endpoint) ++
        queryStatements graph endpoint (queryIdents endpoint)) frame).bind (fun env =>
      sent lib env (.method (.ident "self") "request_handler"
        [.text endpoint.method.name, .borrow (.ident "path"), bodyArgument endpoint.request])) =
      if endpoint.queryParams ≠ [] ∧ "append_query" ∈ paramIdents endpoint then none
      else some (described lib graph endpoint args) := by
  intro frame
  have hpathValues := hfit.path.length_eq.symm
  have hqueryValues := hfit.query.length_eq.symm
  obtain ⟨hpathNamed, hpathGiven⟩ := map_slots (length_pathIdents endpoint) hpathValues
  obtain ⟨hqueryNamed, hqueryGiven⟩ := map_slots (length_queryIdents endpoint) hqueryValues
  have hrequiredRow : ∀ slot ∈ slots endpoint.pathParams (pathIdents endpoint) args.path,
      slot.field.required = true :=
    fun slot hmem => hrequired slot.field (mem_slots hfit.path hmem).1
  obtain ⟨isMut, hmut, hpath⟩ := execAll_pathStatements (held_path graph hfit) hrequiredRow
    hpathNamed.symm
  rw [hpathGiven] at hpath
  rw [execAll_append, hpath, Option.bind_some]
  -- without query parameters the function is not called, so it does not matter what hides it
  cases hempty : endpoint.queryParams.isEmpty with
  | true =>
    have hnil : endpoint.queryParams = [] := List.isEmpty_iff.1 hempty
    rw [if_neg (fun h => h.1 hnil), queryStatements, hempty, if_pos rfl, execAll_nil,
      Option.bind_some, sent_request graph hfit (Env.lookup_cons_self _ _)
        (Env.lookup_cons_of_ne (by simp)) (Env.lookup_cons_of_ne (by simp)), described, hnil,
      List.zip_nil_left, List.filterMap_nil, Query.append_nil]
  | false =>
    have hne : endpoint.queryParams ≠ [] := by
      intro hnil
      rw [hnil] at hempty
      cases hempty
    obtain rfl : isMut = true := hmut (by rw [hempty]; rfl)
    have hheld : ∀ slot ∈ slots endpoint.queryParams (queryIdents endpoint) args.query,
        slot.Held graph frame := held_query graph hfit
    rw [execAll_queryStatements hheld hqueryNamed.symm hempty, hqueryGiven,
      shadows_frame graph hfit]
    by_cases hhidden : "append_query" ∈ paramIdents endpoint
    · rw [if_pos (decide_eq_true hhidden), if_pos ⟨hne, hhidden⟩, Option.bind_none]
    · have hlookup {name : String} (hquery : name ≠ "query") (hpath : name ≠ "path")
          (first second : Value α) :
          Env.lookup name (⟨"query", true, first⟩ :: ⟨"path", true, second⟩ :: frame) =
            Env.lookup name frame := by
        rw [Env.lookup_cons_of_ne hquery, Env.lookup_cons_of_ne hpath]
      rw [if_neg (by simp [hhidden]), if_neg (fun h => hhidden h.2), Option.bind_some,
        sent_request graph hfit (Env.lookup_cons_of_ne (by simp) |>.trans
          (Env.lookup_cons_self _ _)) (hlookup (by simp) (by simp) _ _)
          (hlookup (by simp) (by simp) _ _)]
      rfl

/-- Where no parameter hides the function that puts the query behind the path, the request is the
one described. -/
theorem send_eq_described (graph : Graph)
    (hrequired : ∀ field ∈ endpoint.pathParams, field.required = true)
    (hfit : args.Fit graph endpoint)
    (hfree : endpoint.queryParams ≠ [] → "append_query" ∉ paramIdents endpoint) :
    (methodOf graph endpoint).send lib args.toList = some (described lib graph endpoint args) := by
  rw [send_eq_bind graph (length_arguments graph hfit), execAll_methodBody graph hfit hrequired,
    if_neg fun hhidden => hfree hhidden.1 hhidden.2]

/-- **A method sends the request that its endpoint describes,** for all values that its parameters
can have.  The one exception: a parameter with the identifier `append_query` hides the function that
puts the query behind the path, and then nothing is sent. -/
theorem Sdk.send_methodOf (lib : Library α) (graph : Graph) (endpoint : Endpoint)
    (args : Arguments α) (hrequired : ∀ field ∈ endpoint.pathParams, field.required = true)
    (hfit : args.Fit graph endpoint) :
    (methodOf graph endpoint).send lib args.toList =
      if endpoint.queryParams ≠ [] ∧ "append_query" ∈ paramIdents endpoint then none
      else some (described lib graph endpoint args) := by
  rw [send_eq_bind graph (length_arguments graph hfit)]
  exact execAll_methodBody graph hfit hrequired

end Method

/-! ## One request, and one that is not sent -/

/-- A library that shows every value as it stands. -/
def plainLibrary : Library String where
  word := id
  display := id
  format := fun date _ => date
  rfc3339 := id
  json := fun _ => some "null"

/-- An endpoint with a placeholder, an optional number, an optional list and a body. -/
def shopSearch : Endpoint where
  name := "Search"
  method := .post
  route := "/shops/\x7bshop\x7d/search"
  request := some { type := .any, required := true }
  pathParams := [.param "shop" (.primitive .string) .path true]
  queryParams := [.param "limit" (.primitive .int32) .query false,
    .param "tags" (.array (.primitive .string)) .query false]

/-- The endpoint with its optional number under another key. -/
def hidingSearch : Endpoint :=
  { shopSearch with queryParams := [.param "append_query" (.primitive .int32) .query false] }

/-- A request with an optional number and a list, and one that is not sent because of the key of the
number. -/
theorem Sdk.send_methodOf_search :
    (∃ request, (methodOf .empty shopSearch).send plainLibrary
        [.text "a", .option (some (.shown "3")), .list [.text "x", .text "y"], .other "b"] =
          some request ∧
      request.path = "/shops/a/search?limit=3&tags=x%2Cy" ∧ request.body = some (.other "b")) ∧
    (methodOf .empty hidingSearch).send plainLibrary
      [.text "a", .option (some (.shown "3")), .other "b"] = none := by
  -- The two forms of parameters and the values that are allowed for them.
  have htext : wireKind .empty (.primitive .string) = .text := by decide
  have hnumber : wireKind .empty (.primitive .int32) = .display := by decide
  have hshop : (Field.param "shop" (.primitive .string) .path true).Admits .empty
      (Value.text "a" : Value String) := by
    show (Value.text "a").Fits (wireKind .empty (.primitive .string))
    rw [htext]
    exact .text "a"
  have hlimit (key : String) : (Field.param key (.primitive .int32) .query false).Admits .empty
      (Value.option (some (.shown "3"))) := by
    refine ⟨some (.shown "3"), rfl, fun v hv => ?_⟩
    cases hv
    show (Value.shown "3").Fits (wireKind .empty (.primitive .int32))
    rw [hnumber]
    exact .display "3"
  have htags : (Field.param "tags" (.array (.primitive .string)) .query false).Admits .empty
      (Value.list [.text "x", .text "y"] : Value String) := by
    refine ⟨_, rfl, fun item hmem => ?_⟩
    show item.Fits (wireKind .empty (.primitive .string))
    rw [htext]
    rcases List.mem_cons.1 hmem with rfl | hmem
    · exact .text "x"
    · rcases List.mem_cons.1 hmem with rfl | hmem
      · exact .text "y"
      · cases hmem
  have hrequired : ∀ field ∈ shopSearch.pathParams, field.required = true := by decide
  constructor
  · have hsend := Sdk.send_methodOf plainLibrary .empty shopSearch
      ⟨[.text "a"], [.option (some (.shown "3")), .list [.text "x", .text "y"]],
        some (.other "b")⟩ hrequired
      ⟨.cons hshop .nil, .cons (hlimit "limit") (.cons htags .nil), ⟨.other "b", rfl⟩⟩
    rw [if_neg (by decide +kernel)] at hsend
    exact ⟨_, hsend, by decide +kernel, rfl⟩
  · -- With a parameter of that name the condition fails, and the call does not resolve.
    have hsend := Sdk.send_methodOf plainLibrary .empty hidingSearch
      ⟨[.text "a"], [.option (some (.shown "3"))], some (.other "b")⟩ hrequired
      ⟨.cons hshop .nil, .cons (hlimit "append_query") .nil, ⟨.other "b", rfl⟩⟩
    rw [if_pos (by decide +kernel)] at hsend
    exact hsend

end ClientForge
