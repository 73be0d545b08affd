/-
  A parameter whose type has a name, and one with the type that the name stands for.

  A document may give a type a name and use the name for a parameter, or write the type out.  In a
  request the two should be no different.

  How a value is written is told by its type, and a name for a scalar is followed to it.  Whether a
  parameter is a list or an enumeration of texts is told by its type as it is declared, and there no
  name is followed.  So the comparison is of an endpoint and the same endpoint with the name unfolded
  (`Endpoint.unfold`), and it comes out in one of three ways.

  1. **Alike.**  If the name stands neither for a list nor for an enumeration of texts, every request is
     the same (`send_unfold`).  Two things are compared for each parameter: that it can have the same
     values, and that these are written alike, in the path and in the query (`Alike`).
  2. **A list** is written as JSON under a name, and with commas otherwise; a list without items, as
     `[]` and as nothing (`send_list_ne`).
  3. **An enumeration of texts** is taken for a text under another name, and the code for a text cannot
     be applied to one of an enumeration: no request is sent at all (`send_symbol_ne`).

  For the last two one endpoint with one parameter is enough (`probe`), whatever the graph and the name
  are; so the whole is an equivalence (`Sdk.sendsAlike_iff`).  Of the libraries it is assumed that an
  empty list is `[]` in JSON, and that a value of any type is shown as its JSON.
-/
import ClientForge.Proofs.Graph.AliasEnds
import ClientForge.Proofs.Request.Sending

namespace ClientForge

open ClientForge.Code ClientForge.Sdk

variable {α : Type}

/-! ## Unfolding a name -/

/-- The type, with what the name stands for in the place of the name. -/
def TypeToken.unfold (type : TypeToken) (name : String) (token : TypeToken) : TypeToken :=
  if type = .named name then token else type

/-- The parameter with its type unfolded. -/
def Field.unfold (name : String) (token : TypeToken) (field : Field) : Field :=
  { field with type := field.type.unfold name token }

/-- The endpoint with the types of its parameters unfolded. -/
def Endpoint.unfold (name : String) (token : TypeToken) (endpoint : Endpoint) : Endpoint :=
  { endpoint with
    pathParams := endpoint.pathParams.map (Field.unfold name token)
    queryParams := endpoint.queryParams.map (Field.unfold name token) }

/-- A single value of any type is JSON: it has its JSON as its own text. -/
def Field.ShowsJson (lib : Library α) (field : Field) (value : Value α) : Prop :=
  field.type = .any → ∀ a, value = .shown a ∨ value = .option (some (.shown a)) →
    lib.json (.shown a) = some (lib.display a)

/-- Every value of any type among the arguments is JSON. -/
structure Arguments.ShowJson (lib : Library α) (endpoint : Endpoint) (args : Arguments α) :
    Prop where
  path : List.Forall₂ (Field.ShowsJson lib) endpoint.pathParams args.path
  query : List.Forall₂ (Field.ShowsJson lib) endpoint.queryParams args.query

/-! ## Kinds -/

section Kinds

variable {graph : Graph} {name : String} {model : Model} {token : TypeToken}

/-- An enumeration of texts has a text as its scalar. -/
theorem scalarOf?_textEnum (h : isTextEnum graph token = true) :
    graph.scalarOf? token = some .string := by
  cases token with
  | named other =>
    rw [isTextEnum, Graph.isStringEnum, Option.any_eq_true] at h
    obtain ⟨model, hget, henum⟩ := h
    rw [Model.isStringEnum, Bool.and_eq_true, beq_iff_eq] at henum
    exact Graph.scalarOf?_eq_some_iff.2 ⟨[other], .viaAlias hget henum.2 (.scalar .string)⟩
  | _ => cases h

/-- The name of a model that is no enumeration is not followed to one. -/
theorem isTextEnum_alias (hget : graph.get? name = some model) (henum : model.isEnum = false) :
    isTextEnum graph (.named name) = false := by
  rw [isTextEnum, Graph.isStringEnum, hget, Option.any_some, Model.isStringEnum, henum,
    Bool.false_and]

/-- **How a value of a named type is written:** as its scalar, or else as JSON. -/
theorem wireKind_alias (hget : graph.get? name = some model) (henum : model.isEnum = false)
    (halias : model.aliasOf = some token) :
    wireKind graph (.named name) = ((graph.scalarOf? token).map .ofPrimitive).getD .json := by
  have htext := isTextEnum_alias hget henum
  have hscalar := Graph.scalarOf?_of_aliasStep (.viaAlias hget halias)
  cases hfound : graph.scalarOf? token with
  | none =>
    rw [wireKind_of_no_scalar htext (hscalar.trans hfound), if_neg nofun]
    rfl
  | some p =>
    rw [wireKind_of_scalar htext (hscalar.trans hfound)]
    rfl

/-- Unless the name stands for an enumeration of texts, the value is written in the same way as one
of its type, or as JSON where the type is any. -/
theorem wireKind_unfold (hget : graph.get? name = some model) (henum : model.isEnum = false)
    (halias : model.aliasOf = some token) (htext : isTextEnum graph token = false)
    (type : TypeToken) :
    wireKind graph (type.unfold name token) = wireKind graph type ∨
      type.unfold name token = .any ∧ wireKind graph type = .json := by
  unfold TypeToken.unfold
  split
  · rename_i hname
    rw [hname, wireKind_alias hget henum halias]
    by_cases hany : token = .any
    · rw [hany]
      exact Or.inr ⟨rfl, rfl⟩
    · left
      rw [wireKind, htext, if_neg Bool.false_ne_true, if_neg hany]
      cases graph.scalarOf? token <;> rfl
  · exact Or.inl rfl

/-- A parameter stays a list, or none, where the name stands for none. -/
theorem isArray_unfold (harray : token.isArray = false) (field : Field) :
    (field.unfold name token).isArray = field.isArray := by
  unfold Field.unfold Field.isArray TypeToken.unfold
  dsimp only
  split
  · rename_i hname
    rw [hname, harray]
    rfl
  · rfl

/-- A list is no name, and is not unfolded. -/
theorem unfold_of_isArray {field : Field} (h : field.isArray = true) :
    field.unfold name token = field := by
  have hne : field.type ≠ .named name := by
    intro hname
    rw [Field.isArray, hname] at h
    cases h
  unfold Field.unfold TypeToken.unfold
  rw [if_neg hne]

end Kinds

/-! ## Parameters -/

section Parameters

variable {lib : Library α} {graph : Graph} {name : String} {model : Model} {token : TypeToken}
  {field : Field} {value : Value α}

/-- A single value is written alike for both types. -/
theorem wireText_unfold (hget : graph.get? name = some model) (henum : model.isEnum = false)
    (halias : model.aliasOf = some token) (htext : isTextEnum graph token = false)
    (hfits : value.Fits (wireKind graph (field.unfold name token).type))
    (hjson : (field.unfold name token).type = .any → ∀ a, value = .shown a →
      lib.json (.shown a) = some (lib.display a)) :
    value.Fits (wireKind graph field.type) ∧
      lib.wireText (wireKind graph (field.unfold name token).type) value =
        lib.wireText (wireKind graph field.type) value := by
  have htype : (field.unfold name token).type = field.type.unfold name token := rfl
  rcases wireKind_unfold hget henum halias htext field.type with hkind | ⟨hany, hkind⟩
  · rw [htype, hkind] at hfits ⊢
    exact ⟨hfits, rfl⟩
  · -- a value of any type has its JSON as its own text
    have hdisplay : wireKind graph (.any : TypeToken) = .display := rfl
    rw [htype, hany] at hfits hjson ⊢
    rw [hkind]
    cases hfits with
    | display a =>
      refine ⟨.json _, ?_⟩
      rw [hdisplay]
      show lib.display a = (lib.json (.shown a)).getD ""
      rw [hjson rfl a rfl]
      rfl

/-- The values of a parameter unfolded are values of the parameter, and are written alike. -/
structure Alike (lib : Library α) (graph : Graph) (name : String) (token : TypeToken)
    (field : Field) (value : Value α) : Prop where
  admits : field.Admits graph value
  path : field.required = true → fieldWireText lib graph (field.unfold name token) value =
    fieldWireText lib graph field value
  query : queryPair? lib graph (field.unfold name token, value) =
    queryPair? lib graph (field, value)

/-- Two types whose single values are written alike make parameters that are. -/
theorem alike_of_single (harray : token.isArray = false)
    (hadmits : (field.unfold name token).Admits graph value)
    (hsingle : ∀ v, value = v ∨ value = .option (some v) →
      v.Fits (wireKind graph (field.unfold name token).type) →
      v.Fits (wireKind graph field.type) ∧
        lib.wireText (wireKind graph (field.unfold name token).type) v =
          lib.wireText (wireKind graph field.type) v) :
    Alike lib graph name token field value := by
  -- A list is not unfolded, so both endpoints have the same field.
  cases hlist : field.isArray with
  | true =>
    have hsame : field.unfold name token = field := unfold_of_isArray hlist
    rw [hsame] at hadmits
    exact ⟨hadmits, fun _ => by rw [hsame], by rw [hsame]⟩
  | false =>
    have hlist' : (field.unfold name token).isArray = false := by
      rw [isArray_unfold harray, hlist]
    have hrequired : (field.unfold name token).required = field.required := rfl
    rw [Field.Admits, hlist', if_neg Bool.false_ne_true, hrequired] at hadmits
    -- A required value is written as it is; an optional one may be left out, and only what it holds
    -- is written.
    cases hneeded : field.required with
    | true =>
      rw [hneeded, if_pos rfl] at hadmits
      obtain ⟨hfits, hwire⟩ := hsingle value (Or.inl rfl) hadmits
      have hsame : fieldWireText lib graph (field.unfold name token) value =
          fieldWireText lib graph field value := by
        rw [fieldWireText_scalar hlist', fieldWireText_scalar hlist, hwire]
      refine ⟨?_, fun _ => hsame, ?_⟩
      · rwa [Field.Admits, hlist, if_neg Bool.false_ne_true, hneeded, if_pos rfl]
      rw [queryPair?_required hneeded, queryPair?_required (hrequired.trans hneeded), hsame]
      rfl
    | false =>
      rw [hneeded, if_neg Bool.false_ne_true] at hadmits
      obtain ⟨inner, rfl, hinner⟩ := hadmits
      -- The hypothesis on single values is used once for each value that the option holds.
      have hboth (v : Value α) (hv : v ∈ inner) :=
        hsingle v (Or.inr (by rw [Option.mem_def.1 hv])) (hinner v hv)
      refine ⟨?_, fun hneeded' => absurd (hneeded.symm.trans hneeded') Bool.false_ne_true, ?_⟩
      · rw [Field.Admits, hlist, if_neg Bool.false_ne_true, hneeded, if_neg Bool.false_ne_true]
        exact ⟨inner, rfl, fun v hv => (hboth v hv).1⟩
      rw [queryPair?_option hneeded, queryPair?_option (hrequired.trans hneeded)]
      apply Option.map_congr
      intro v hv
      rw [fieldWireText_scalar hlist', fieldWireText_scalar hlist, (hboth v hv).2]
      rfl

/-- **A parameter of the named type** can have the values of one of its type, and adds the same text
to the path and the same pair to the query. -/
theorem alike_unfold (hget : graph.get? name = some model) (henum : model.isEnum = false)
    (halias : model.aliasOf = some token) (harray : token.isArray = false)
    (htext : isTextEnum graph token = false)
    (hadmits : (field.unfold name token).Admits graph value)
    (hjson : (field.unfold name token).ShowsJson lib value) :
    Alike lib graph name token field value := by
  refine alike_of_single harray hadmits fun v hv hfits => ?_
  refine wireText_unfold hget henum halias htext hfits fun hany a heq => hjson hany a ?_
  rwa [heq] at hv

/-- The arguments of a row of parameters. -/
theorem forall₂_alike (hget : graph.get? name = some model) (henum : model.isEnum = false)
    (halias : model.aliasOf = some token) (harray : token.isArray = false)
    (htext : isTextEnum graph token = false) {fields : List Field} {values : List (Value α)}
    (hadmits : List.Forall₂ (Field.Admits graph) (fields.map (Field.unfold name token)) values)
    (hjson : List.Forall₂ (Field.ShowsJson lib) (fields.map (Field.unfold name token)) values) :
    List.Forall₂ (Alike lib graph name token) fields values := by
  induction fields generalizing values with
  | nil =>
    cases hadmits
    exact .nil
  | cons field rest ih => cases hadmits with
    | cons hfirst hrest => cases hjson with
      | cons hshows hmore =>
        exact .cons (alike_unfold hget henum halias harray htext hfirst hshows) (ih hrest hmore)

end Parameters

/-! ## Requests -/

section Requests

variable {lib : Library α} {graph : Graph} {name : String} {model : Model} {token : TypeToken}
  {endpoint : Endpoint} {args : Arguments α}

/-- The identifiers of the parameters are told by their keys. -/
theorem paramIdents_of_keys {endpoint other : Endpoint}
    (h : endpoint.params.map Field.key = other.params.map Field.key) :
    paramIdents endpoint = paramIdents other := by
  have hwish (index : Nat) : paramIdent index =
      (fun key => paramIdent index { key, type := .any }) ∘ Field.key := by
    funext field
    rw [Function.comp_apply, paramIdent, paramIdent]
  have hwishes (e : Endpoint) : e.params.mapIdx paramIdent =
      (e.params.map Field.key).mapIdx fun index key =>
        paramIdent index { key, type := .any } := by
    apply List.ext_getElem?
    intro i
    rw [List.getElem?_mapIdx, List.getElem?_mapIdx, List.getElem?_map, Option.map_map]
    exact congrArg (fun wish => Option.map wish e.params[i]?) (hwish i)
  rw [paramIdents, paramIdents, hwishes, hwishes, h]

/-- Parameters have the same identifiers. -/
theorem paramIdents_unfold (endpoint : Endpoint) :
    paramIdents (endpoint.unfold name token) = paramIdents endpoint := by
  apply paramIdents_of_keys
  simp only [Endpoint.params, Endpoint.unfold, List.map_append, List.map_map]
  rfl

/-- Parameters are unfolded with their values beside them. -/
theorem zip_unfold (fields : List Field) (values : List (Value α)) :
    (fields.map (Field.unfold name token)).zip values =
      (fields.zip values).map fun pair => (pair.1.unfold name token, pair.2) := by
  rw [List.zip_map_left]
  rfl

/-- **The described request is the same** for both types. -/
theorem described_unfold
    (hpath : List.Forall₂ (Alike lib graph name token) endpoint.pathParams args.path)
    (hquery : List.Forall₂ (Alike lib graph name token) endpoint.queryParams args.query)
    (hrequired : ∀ field ∈ endpoint.pathParams, field.required = true) :
    described lib graph (endpoint.unfold name token) args = described lib graph endpoint args := by
  have hsegment (segment : Segment) :
      segmentWireText lib graph ((endpoint.unfold name token).pathParams.zip args.path) segment =
        segmentWireText lib graph (endpoint.pathParams.zip args.path) segment := by
    cases segment with
    | literal text => rfl
    | param key =>
      have hzip : (endpoint.unfold name token).pathParams.zip args.path =
          (endpoint.pathParams.zip args.path).map fun pair => (pair.1.unfold name token, pair.2) :=
        zip_unfold ..
      rw [segmentWireText, segmentWireText, hzip, List.find?_map]
      -- a key is that of a parameter or that of the parameter unfolded
      have hkey : ((fun pair : Field × Value α => pair.1.key == key) ∘
          fun pair : Field × Value α => (pair.1.unfold name token, pair.2)) =
          fun pair => pair.1.key == key := rfl
      rw [hkey]
      cases hfind : (endpoint.pathParams.zip args.path).find? fun pair => pair.1.key == key with
      | none => rfl
      | some pair =>
        have hmem := List.mem_of_find?_eq_some hfind
        exact (List.forall₂_zip hpath hmem).path (hrequired _ (List.of_mem_zip hmem).1)
  have hpairs : ((endpoint.unfold name token).queryParams.zip args.query).filterMap
      (queryPair? lib graph) =
        (endpoint.queryParams.zip args.query).filterMap (queryPair? lib graph) := by
    have hzip : (endpoint.unfold name token).queryParams.zip args.query =
        (endpoint.queryParams.zip args.query).map fun pair => (pair.1.unfold name token, pair.2) :=
      zip_unfold ..
    rw [hzip, List.filterMap_map]
    exact List.filterMap_congr fun pair hmem => (List.forall₂_zip hquery hmem).query
  unfold described
  rw [hpairs, funext hsegment]
  rfl

/-- **The request that is sent is the same** for both types. -/
theorem send_unfold
    (hpath : List.Forall₂ (Alike lib graph name token) endpoint.pathParams args.path)
    (hquery : List.Forall₂ (Alike lib graph name token) endpoint.queryParams args.query)
    (hrequired : ∀ field ∈ endpoint.pathParams, field.required = true)
    (hfit : args.Fit graph (endpoint.unfold name token)) :
    (methodOf graph endpoint).send lib args.toList =
      (methodOf graph (endpoint.unfold name token)).send lib args.toList := by
  have hfitNamed : args.Fit graph endpoint := {
    path := hpath.imp fun _ _ => Alike.admits
    query := hquery.imp fun _ _ => Alike.admits
    body := hfit.body }
  have hrequiredUnfolded : ∀ field ∈ (endpoint.unfold name token).pathParams,
      field.required = true := by
    intro field hmem
    obtain ⟨field, hfield, rfl⟩ := List.mem_map.1 hmem
    exact hrequired field hfield
  have hnone : (endpoint.unfold name token).queryParams ≠ [] ↔ endpoint.queryParams ≠ [] :=
    not_congr List.map_eq_nil_iff
  rw [send_eq_bind graph (length_arguments graph hfitNamed),
    execAll_methodBody graph hfitNamed hrequired, send_eq_bind graph (length_arguments graph hfit),
    execAll_methodBody graph hfit hrequiredUnfolded, described_unfold hpath hquery hrequired,
    paramIdents_unfold]
  simp only [hnone]

end Requests

/-! ## Lists and enumerations -/

/-- An endpoint with one parameter, in its path. -/
def probe (type : TypeToken) : Endpoint where
  name := "Probe"
  method := .get
  route := "/\x7bkey\x7d"
  pathParams := [.param "key" type .path true]

/-- A value for that parameter. -/
def probed (value : Value α) : Arguments α := ⟨[value], [], none⟩

section Probe

variable {lib : Library α} {graph : Graph} {name : String} {type token : TypeToken}
  {value : Value α}

/-- The one parameter is unfolded. -/
theorem unfold_probe : (probe (.named name)).unfold name token = probe token := by
  simp [Endpoint.unfold, probe, Field.unfold, Field.param, TypeToken.unfold]

/-- The route has a slash and a placeholder. -/
theorem segments_probe : Route.segments "/\x7bkey\x7d" = [.literal "/", .param "key"] := by
  decide +kernel

/-- The one parameter is required. -/
theorem required_probe : ∀ field ∈ (probe type).pathParams, field.required = true := by
  intro field hmem
  rw [List.mem_singleton.1 hmem]
  rfl

/-- One value fits the method if the parameter can have it. -/
theorem fit_probed (h : (Field.param "key" type .path true).Admits graph value) :
    (probed value).Fit graph (probe type) where
  path := .cons h .nil
  query := .nil
  body := rfl

/-- The described path is the value behind a slash. -/
theorem path_described_probe (lib : Library α) (graph : Graph) (type : TypeToken)
    (value : Value α) : (described lib graph (probe type) (probed value)).path =
      "/" ++ fieldWireText lib graph (.param "key" type .path true) value := by
  have hpairs : ((probe type).queryParams.zip (probed value).query).filterMap
      (queryPair? lib graph) = [] := rfl
  have hroute : Route.segments (probe type).route = [.literal "/", .param "key"] := segments_probe
  have hliteral (params : List (Field × Value α)) :
      segmentWireText lib graph params (.literal "/") = "/" := rfl
  have hvalue : segmentWireText lib graph ((probe type).pathParams.zip (probed value).path)
      (.param "key") = fieldWireText lib graph (.param "key" type .path true) value := rfl
  rw [described, hpairs, Query.append_nil, hroute, List.map_cons, List.map_cons, List.map_nil,
    String.join_cons, String.join_cons, String.join_nil, String.append_empty, hliteral, hvalue]

/-- The path with the value in it. -/
theorem send_probe (h : (Field.param "key" type .path true).Admits graph value) :
    ((methodOf graph (probe type)).send lib (probed value).toList).map Request.path =
      some ("/" ++ fieldWireText lib graph (.param "key" type .path true) value) := by
  rw [send_eq_described graph required_probe (fit_probed h) fun hne => absurd rfl hne,
    Option.map_some, path_described_probe]

/-- The parameter is called as its key. -/
theorem pathIdents_probe : pathIdents (probe type) = ["key"] := by
  have hidents : paramIdents (probe type) = paramIdents (probe .any) := paramIdents_of_keys rfl
  have hany : paramIdents (probe .any) = ["key"] := by decide +kernel
  rw [pathIdents, hidents, hany]
  rfl

/-- A text is put behind the slash as it is. -/
theorem pathStatements_probe (hkind : wireKind graph type = .text) (harray : type.isArray = false) :
    pathStatements graph (probe type) ["key"] =
      [.letIn "path" true none (.call "String::from" [.text "/"]),
        .run (.method (.ident "path") "push_str" [.borrow (.ident "key")])] := by
  have hroute : Route.segments (probe type).route = [.literal "/", .param "key"] := segments_probe
  have htext : pathText graph (.param "key" type .path true) "key" = .borrow (.ident "key") := by
    have hlist : (Field.param "key" type .path true).isArray = false := harray
    have hwire : wireKind graph (Field.param "key" type .path true).type = .text := hkind
    rw [pathText, hlist, if_neg Bool.false_ne_true, hwire]
  rw [pathStatements, hroute, ← htext]
  rfl

/-- One of an enumeration is no text, and what is written for a text does not take it. -/
theorem execAll_probe_symbol (hkind : wireKind graph type = .text) (harray : type.isArray = false)
    {env : Env α} {a : α} (hbound : env.lookup "key" = some (.symbol a)) :
    execAll lib (pathStatements graph (probe type) ["key"]) env = none := by
  have htext : eval lib (.text "/") env = some (.text "/") := by rw [eval]
  have hbegin : exec lib (.letIn "path" true none (.call "String::from" [.text "/"])) env =
      some (⟨"path", true, .text "/"⟩ :: env) := by
    rw [exec_letIn, eval_call "String::from" (by decide) (evalAll_singleton htext)]
    rfl
  have hkey : Env.lookup "key" (⟨"path", true, .text "/"⟩ :: env) = some (.symbol a) := by
    rw [Env.lookup_cons_of_ne (by simp), hbound]
  rw [pathStatements_probe hkind harray, execAll_cons, hbegin, Option.bind_some, execAll_cons,
    exec_run, effect, eval, eval_ident (by decide), hkey]
  rfl

/-- So nothing is sent. -/
theorem send_probe_symbol (hkind : wireKind graph type = .text) (harray : type.isArray = false)
    (a : α) : (methodOf graph (probe type)).send lib (probed (.symbol a)).toList = none := by
  have hlength : (probed (.symbol a)).toList.length =
      (methodOf graph (probe type)).params.length := by
    have hnames := congrArg List.length (parameterNames_methodOf graph (probe type))
    rw [Function.parameterNames, List.length_cons, List.length_map, pathIdents_probe] at hnames
    exact (Nat.succ.inj hnames).symm
  have hframe : (methodOf graph (probe type)).frame (probed (.symbol a)).toList =
      [⟨"self", false, .client⟩, ⟨"key", false, .symbol a⟩] := by
    rw [Function.frame, parameterNames_methodOf, pathIdents_probe]
    rfl
  rw [send_eq_bind graph hlength, hframe, pathIdents_probe, execAll_append,
    execAll_probe_symbol hkind harray rfl]
  rfl

/-- A parameter that is no list can have the single values of its type. -/
theorem admits_probe (harray : type.isArray = false) (hfits : value.Fits (wireKind graph type)) :
    (Field.param "key" type .path true).Admits graph value := by
  have hlist : (Field.param "key" type .path true).isArray = false := harray
  rw [Field.Admits, hlist, if_neg Bool.false_ne_true]
  exact hfits

end Probe

section Exceptions

variable (lib : Library α) {graph : Graph} {name : String} {model : Model} {token : TypeToken}

/-- **A list without items** is written as nothing, but as JSON where its type has a name. -/
theorem send_list_ne (hget : graph.get? name = some model) (henum : model.isEnum = false)
    (halias : model.aliasOf = some token) (hempty : lib.json (.list []) = some "[]")
    (harray : token.isArray = true) :
    (probed (.list [] : Value α)).Fit graph (probe token) ∧
      (methodOf graph (probe (.named name))).send lib (probed (.list [])).toList ≠
        (methodOf graph (probe token)).send lib (probed (.list [])).toList := by
  -- The request for the alias spells the empty list out; the one for the list joins nothing.
  have hlist : (Field.param "key" token .path true).isArray = true := harray
  have hadmits : (Field.param "key" token .path true).Admits graph (.list [] : Value α) := by
    rw [Field.Admits, hlist, if_pos rfl]
    exact ⟨[], rfl, fun _ hmem => absurd hmem List.not_mem_nil⟩
  have hkind : wireKind graph (.named name) = .json := by
    rw [wireKind_alias hget henum halias]
    cases token with
    | array item => rfl
    | _ => cases harray
  have hnamed : (Field.param "key" (.named name) .path true).Admits graph (.list [] : Value α) :=
    admits_probe rfl (hkind ▸ .json _)
  have hjson : lib.wireText (wireKind graph (Field.param "key" (.named name) .path true).type)
      (.list []) = "[]" := by
    show lib.wireText (wireKind graph (.named name)) (.list []) = "[]"
    rw [hkind]
    show (lib.json (.list [])).getD "" = "[]"
    rw [hempty]
    rfl
  -- Joined by commas, no items give the empty text.
  have hnothing (kind : WireKind) : lib.listWireText kind [] = "" := rfl
  refine ⟨fit_probed hadmits, fun heq => ?_⟩
  have hpaths := congrArg (Option.map Request.path) heq
  rw [send_probe hnamed, send_probe hadmits, fieldWireText_scalar rfl, fieldWireText_list hlist,
    hjson, hnothing] at hpaths
  exact absurd hpaths (by decide)

/-- **One of an enumeration** is written as its word, but not taken where its type has a name. -/
theorem send_symbol_ne (hget : graph.get? name = some model) (henum : model.isEnum = false)
    (halias : model.aliasOf = some token) (htext : isTextEnum graph token = true) (a : α) :
    (probed (.symbol a)).Fit graph (probe token) ∧
      (methodOf graph (probe (.named name))).send lib (probed (.symbol a)).toList ≠
        (methodOf graph (probe token)).send lib (probed (.symbol a)).toList := by
  have harray : token.isArray = false := by
    cases token with
    | array item => cases htext
    | _ => rfl
  have hkind : wireKind graph (.named name) = .text := by
    rw [wireKind_alias hget henum halias, scalarOf?_textEnum htext]
    rfl
  have hword : wireKind graph token = .textEnum := by rw [wireKind, htext, if_pos rfl]
  have hfits : (Value.symbol a).Fits (wireKind graph token) := by
    rw [hword]
    exact .textEnum a
  have hadmits := admits_probe harray hfits
  refine ⟨fit_probed hadmits, fun heq => ?_⟩
  have hpaths := congrArg (Option.map Request.path) heq
  rw [send_probe_symbol hkind rfl, send_probe hadmits] at hpaths
  cases hpaths

end Exceptions

/-! ## The requests of all endpoints -/

section Named

variable {graph : Graph} {name : String} {model : Model} {token : TypeToken}

/-- `SendsAlike lib graph name token` — for every endpoint, with parameters of the named type
anywhere in the path and the query, and for all its arguments, the request is the one for the type
that the name stands for. -/
def Sdk.SendsAlike (lib : Library α) (graph : Graph) (name : String) (token : TypeToken) : Prop :=
  ∀ (endpoint : Endpoint) (args : Arguments α),
    (∀ field ∈ endpoint.pathParams, field.required = true) →
    args.Fit graph (endpoint.unfold name token) →
    args.ShowJson lib (endpoint.unfold name token) →
    (methodOf graph endpoint).send lib args.toList =
      (methodOf graph (endpoint.unfold name token)).send lib args.toList

/-- **Naming the type of a parameter leaves every request as it is** exactly if the name stands
neither for a list nor for an enumeration of texts. -/
theorem Sdk.sendsAlike_iff [Nonempty α] (lib : Library α)
    (hempty : lib.json (.list []) = some "[]") (hget : graph.get? name = some model)
    (henum : model.isEnum = false) (halias : model.aliasOf = some token) :
    SendsAlike lib graph name token ↔
      token.isArray = false ∧ isTextEnum graph token = false := by
  constructor
  · -- One probing endpoint with the value in its path is enough to tell the two apart.
    intro h
    have hprobe (value : Value α) (hany : token ≠ .any)
        (hfit : (probed value).Fit graph (probe token)) :
        (methodOf graph (probe (.named name))).send lib (probed value).toList =
          (methodOf graph (probe token)).send lib (probed value).toList := by
      have hsame := h (probe (.named name)) (probed value) required_probe
      rw [unfold_probe] at hsame
      exact hsame hfit ⟨.cons (fun htype => absurd htype hany) .nil, .nil⟩
    constructor
    · -- For a list, the empty list is the value at which the requests differ.
      by_contra harray
      rw [Bool.not_eq_false] at harray
      have hany : token ≠ .any := by
        rintro rfl
        cases harray
      obtain ⟨hfit, hne⟩ := send_list_ne lib hget henum halias hempty harray
      exact hne (hprobe _ hany hfit)
    · -- For an enumeration of texts, any symbol: quoted under the alias, bare without it.
      by_contra htext
      rw [Bool.not_eq_false] at htext
      have hany : token ≠ .any := by
        rintro rfl
        cases htext
      obtain ⟨a⟩ := ‹Nonempty α›
      obtain ⟨hfit, hne⟩ := send_symbol_ne lib hget henum halias htext a
      exact hne (hprobe _ hany hfit)
  · -- Otherwise every parameter is sent alike, one by one.
    rintro ⟨harray, htext⟩ endpoint args hrequired hfit hjson
    have hpath := forall₂_alike hget henum halias harray htext hfit.path hjson.path
    have hquery := forall₂_alike hget henum halias harray htext hfit.query hjson.query
    exact send_unfold hpath hquery hrequired hfit

end Named

/-! ## A named number and a named list -/

/-- A name for a number and one for a list of texts. -/
def namedTypes : Graph := .ofList [
  { name := "Size", aliasOf := some (.primitive .int32) },
  { name := "Tags", aliasOf := some (.array (.primitive .string)) }]

/-- A library that shows every value as it stands, the same in JSON. -/
def jsonLibrary : Library String :=
  { plainLibrary with json := fun value => match value with
    | .shown text => some text
    | .list [] => some "[]"
    | _ => none }

/-- An endpoint with an optional query parameter. -/
def sized (type : TypeToken) : Endpoint where
  name := "List"
  method := .get
  route := "/items"
  queryParams := [.param "size" type .query false]

/-- The number is sent as it is without its name, given or left out; the list is not. -/
theorem Sdk.sendsAlike_iff_size :
    (∀ size ∈ [none, some (Value.shown "3")],
      (methodOf namedTypes (sized (.named "Size"))).send jsonLibrary [.option size] =
        (methodOf namedTypes (sized (.primitive .int32))).send jsonLibrary [.option size]) ∧
    ¬ SendsAlike jsonLibrary namedTypes "Tags" (.array (.primitive .string)) := by
  have hsize : namedTypes.get? "Size" = some
      { name := "Size", aliasOf := some (.primitive .int32) } := by decide +kernel
  have htags : namedTypes.get? "Tags" = some
      { name := "Tags", aliasOf := some (.array (.primitive .string)) } := by decide +kernel
  -- The criterion decides both names: a number behind Size, a list behind Tags.
  have halike := (Sdk.sendsAlike_iff jsonLibrary rfl hsize rfl rfl).2 ⟨rfl, rfl⟩
  have hlist := Sdk.sendsAlike_iff jsonLibrary rfl htags rfl rfl
  refine ⟨fun size hgiven => ?_, fun h => absurd (hlist.1 h).1 (by decide)⟩
  have hunfold : (sized (.named "Size")).unfold "Size" (.primitive .int32) =
      sized (.primitive .int32) := by
    simp [Endpoint.unfold, sized, Field.unfold, Field.param, TypeToken.unfold]
  have hargs : Arguments.toList ⟨[], [.option size], none⟩ = [.option size] := rfl
  have hsame := halike (sized (.named "Size")) ⟨[], [.option size], none⟩ nofun
  rw [hunfold, hargs] at hsame
  have hfits : ∀ v ∈ size, v.Fits (wireKind namedTypes (.primitive .int32)) := by
    intro v hv
    rcases List.mem_cons.1 hgiven with rfl | hgiven
    · cases hv
    · rw [List.mem_singleton.1 hgiven] at hv
      cases hv
      exact .display "3"
  exact hsame ⟨.nil, .cons ⟨size, rfl, hfits⟩ .nil, rfl⟩ ⟨.nil, .cons nofun .nil⟩

end ClientForge
