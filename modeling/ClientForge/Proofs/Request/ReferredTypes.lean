/-
  A component that is just a reference, and the component that it refers to.

  Such a component should behave as the one it refers to wherever its name is used.  Its model is a
  composition of one child, and a composition is no other name for a type.

  **In JSON** that makes no difference: a composition of one child that can be embedded is written as
  the child is, and one whose child cannot be embedded may be written as anything, the child's values
  included.

  **In a path or a query** it does.  A composition has no scalar behind it, so a parameter of its type is
  written as JSON, while one of the other type is written as the scalar behind that one says.  The two
  agree exactly if there is no such scalar, or one that is written in JSON as it is on the wire
  (`Primitive.isWrittenAlike`):

  * whole numbers and truth values are;
  * texts, dates and times are not, since JSON puts quotes around them;
  * numbers with fractions are not, since one that happens to be whole is shown without its point, and
    has it in JSON.

  For the second direction a value has to be exhibited on which they differ, and what values there are
  is known of libraries only; so these are assumed to write JSON in the usual way
  (`Library.WritesJson`).  The argument about parameters is that for named types, with the other
  component in the place of the type (`sendsAsReferred_iff`).  The main result has both sides and is
  about the components of any document (`Document.reference_alike_iff`).
-/
import ClientForge.Proofs.Hoisting.Definitions
import ClientForge.Proofs.Hoisting.Origin
import ClientForge.Proofs.Models.AliasExpansion
import ClientForge.Proofs.Models.WrittenJson
import ClientForge.Proofs.Request.AliasedTypes

namespace ClientForge

open ClientForge.Code ClientForge.Sdk

variable {α : Type}

/-! ## What the libraries do -/

/-- Whether a scalar is written in JSON as it is on the wire. -/
def Primitive.isWrittenAlike : Primitive → Bool
  | int32 | int64 | integer | boolean => true
  | string | date | dateTime | float | double | number => false

/-- It is a whole number, which is shown, or a truth value. -/
theorem Primitive.kind_of_writtenAlike {p : Primitive} (h : p.isWrittenAlike = true) :
    WireKind.ofPrimitive p = .display ∨ WireKind.ofPrimitive p = .bool := by
  revert h
  cases p <;> decide

/-- It is a text, a date, a time, or a number with a fraction, which is shown. -/
theorem Primitive.kind_of_not_writtenAlike {p : Primitive} (h : p.isWrittenAlike = false) :
    WireKind.ofPrimitive p = .text ∨ WireKind.ofPrimitive p = .display ∨
      WireKind.ofPrimitive p = .date ∨ WireKind.ofPrimitive p = .dateTime := by
  revert h
  cases p <;> decide

/-- `lib.WritesJson number` — the library writes values as JSON in the usual way; `number p a` says
that `a` is a number of that scalar type. -/
structure Code.Library.WritesJson (lib : Library α) (number : Primitive → α → Prop) : Prop where
  text : ∀ s, lib.json (.text s) = some (Json.quotedText s)
  symbol : ∀ a, lib.json (.symbol a) = some (Json.quotedText (lib.word a))
  /-- Dates and times are written as texts, and there are no quotes in them. -/
  date : ∀ a, ∃ s, lib.json (.date a) = some (Json.quotedText s)
  unquotedDate : ∀ a, '"' ∉ (lib.format a "%Y-%m-%d").toList
  time : ∀ a, ∃ s, lib.json (.time a) = some (Json.quotedText s)
  unquotedTime : ∀ a, '"' ∉ (lib.rfc3339 a).toList
  bool : ∀ b, lib.json (.bool b) = some (if b then "true" else "false")
  /-- A whole number is written in JSON as it is shown. -/
  whole : ∀ p a, WireKind.ofPrimitive p = .display → p.isWrittenAlike = true → number p a →
    lib.json (.shown a) = some (lib.display a)
  /-- Of any other kind of number some are written in JSON with a fraction that is not shown. -/
  real : ∀ p, WireKind.ofPrimitive p = .display → p.isWrittenAlike = false →
    ∃ a text, number p a ∧ lib.json (.shown a) = some text ∧ text ≠ lib.display a

/-- A number that is given for the parameter is one of its type. -/
def Field.Numbered (number : Primitive → α → Prop) (graph : Graph) (field : Field)
    (value : Value α) : Prop :=
  ∀ p, graph.scalarOf? field.type = some p →
    ∀ a, value = .shown a ∨ value = .option (some (.shown a)) → number p a

/-- The numbers among the arguments are those of the types of their parameters. -/
structure Arguments.Numbered (number : Primitive → α → Prop) (graph : Graph) (endpoint : Endpoint)
    (args : Arguments α) : Prop where
  path : List.Forall₂ (Field.Numbered number graph) endpoint.pathParams args.path
  query : List.Forall₂ (Field.Numbered number graph) endpoint.queryParams args.query

/-- `SendsAsReferred lib number graph name other` — for every endpoint, with parameters of the one
type anywhere in the path and the query, and for all its arguments, the request is the one for the
other type. -/
def Sdk.SendsAsReferred (lib : Library α) (number : Primitive → α → Prop) (graph : Graph)
    (name other : String) : Prop :=
  ∀ (endpoint : Endpoint) (args : Arguments α),
    (∀ field ∈ endpoint.pathParams, field.required = true) →
    args.Fit graph (endpoint.unfold name (.named other)) →
    args.Numbered number graph (endpoint.unfold name (.named other)) →
    (methodOf graph endpoint).send lib args.toList =
      (methodOf graph (endpoint.unfold name (.named other))).send lib args.toList

section Kinds

variable {lib : Library α} {number : Primitive → α → Prop} {graph : Graph}
  {name other : String} {model : Model} {value : Value α}

/-- A model that is no other name for a type is written as JSON. -/
theorem wireKind_of_aliasOf_none (hget : graph.get? name = some model)
    (halias : model.aliasOf = none) : wireKind graph (.named name) = .json := by
  have hscalar : graph.scalarOf? (.named name) = none := by
    cases h : graph.scalarOf? (.named name) with
    | none => rfl
    | some p =>
      obtain ⟨names, hpath⟩ := Graph.scalarOf?_eq_some_iff.1 h
      cases hpath with
      | viaAlias hmodel ha =>
        cases hget.symm.trans hmodel
        cases halias.symm.trans ha
  have htext : isTextEnum graph (.named name) = false := by
    cases h : isTextEnum graph (.named name) with
    | false => rfl
    | true => cases hscalar.symm.trans (scalarOf?_textEnum h)
  rw [wireKind_of_no_scalar htext hscalar, if_neg nofun]

/-- A text between quotes is longer than the text. -/
theorem quotedText_ne (s : String) : Json.quotedText s ≠ s := by
  have hescaped : ∀ cs : List Char, cs.length ≤ (cs.flatMap Json.escapedChar).length := by
    intro cs
    induction cs with
    | nil => exact Nat.le_refl 0
    | cons c rest ih =>
      have hchar : 0 < (Json.escapedChar c).length := by
        unfold Json.escapedChar
        repeat' split
        all_goals exact Nat.succ_pos _
      rw [List.flatMap_cons, List.length_append, List.length_cons]
      omega
  intro heq
  have hlength := congrArg (fun text => text.toList.length) heq
  simp only [Json.quotedText, String.toList_ofList, List.length_append, List.length_cons] at hlength
  have hle := hescaped s.toList
  omega

/-- A text without quotes is not one between quotes. -/
theorem quotedText_ne_of_unquoted {s text : String} (h : '"' ∉ text.toList) :
    text ≠ Json.quotedText s := by
  rintro rfl
  exact h (by simp [Json.quotedText])

/-- **A value is written in JSON as it is on the wire,** where the scalar behind its type is. -/
theorem wireText_alike (hlib : lib.WritesJson number)
    (hscalar : ∀ p, graph.scalarOf? (.named other) = some p → p.isWrittenAlike = true)
    (hfits : value.Fits (wireKind graph (.named other)))
    (hnumber : ∀ p, graph.scalarOf? (.named other) = some p →
      ∀ a, value = .shown a → number p a) :
    lib.wireText (wireKind graph (.named other)) value = lib.wireText .json value := by
  -- A text enumeration counts as a scalar text, which is not among those written alike.
  have htext : isTextEnum graph (.named other) = false := by
    cases h : isTextEnum graph (.named other) with
    | false => rfl
    | true => cases hscalar _ (scalarOf?_textEnum h)
  -- Without a scalar behind it the type goes out as JSON under either name.
  cases hfound : graph.scalarOf? (.named other) with
  | none =>
    rw [wireKind_of_no_scalar htext hfound, if_neg nofun]
  | some p =>
    have hp := hscalar p hfound
    have hkind := wireKind_of_scalar htext hfound
    rw [hkind] at hfits ⊢
    -- Written alike are whole numbers and booleans: their JSON is the text they have anyway.
    rcases Primitive.kind_of_writtenAlike hp with hform | hform
    · rw [hform] at hfits ⊢
      cases hfits with
      | display a =>
        exact (Library.wireText_json (hlib.whole p a hform hp (hnumber p hfound a rfl))).symm
    · rw [hform] at hfits ⊢
      cases hfits with
      | bool b => exact (Library.wireText_json (hlib.bool b)).symm

/-- **Some value is not,** where the scalar is not. -/
theorem exists_wireText_ne [Nonempty α] (hlib : lib.WritesJson number) {p : Primitive}
    (hscalar : graph.scalarOf? (.named other) = some p) (hp : p.isWrittenAlike = false) :
    ∃ value : Value α, value.Fits (wireKind graph (.named other)) ∧
      (∀ a, value = .shown a ∨ value = .option (some (.shown a)) → number p a) ∧
      lib.wireText (wireKind graph (.named other)) value ≠ lib.wireText .json value := by
  obtain ⟨a⟩ := ‹Nonempty α›
  -- One value for each form that is not written alike: a quoted one, or a number with a fraction.
  cases htext : isTextEnum graph (.named other) with
  | true =>
    have hkind : wireKind graph (.named other) = .textEnum := by rw [wireKind, htext, if_pos rfl]
    rw [hkind]
    refine ⟨.symbol a, .textEnum a, by simp, ?_⟩
    rw [Library.wireText_json (hlib.symbol a)]
    exact (quotedText_ne _).symm
  | false =>
    have hkind := wireKind_of_scalar htext hscalar
    rw [hkind]
    rcases Primitive.kind_of_not_writtenAlike hp with hform | hform | hform | hform
    all_goals rw [hform]
    · refine ⟨.text "", .text "", by simp, ?_⟩
      rw [Library.wireText_json (hlib.text "")]
      exact (quotedText_ne "").symm
    · -- For numbers with a fraction the library's own text differs from its JSON somewhere.
      obtain ⟨a, text, hnumber, hwritten, hne⟩ := hlib.real p hform hp
      refine ⟨.shown a, .display a, by simpa using hnumber, ?_⟩
      rw [Library.wireText_json hwritten]
      exact hne.symm
    · obtain ⟨s, hwritten⟩ := hlib.date a
      refine ⟨.date a, .date a, by simp, ?_⟩
      rw [Library.wireText_json hwritten]
      exact quotedText_ne_of_unquoted (hlib.unquotedDate a)
    · obtain ⟨s, hwritten⟩ := hlib.time a
      refine ⟨.time a, .dateTime a, by simp, ?_⟩
      rw [Library.wireText_json hwritten]
      exact quotedText_ne_of_unquoted (hlib.unquotedTime a)

end Kinds

/-! ## Requests -/

section Requests

variable {lib : Library α} {number : Primitive → α → Prop} {graph : Graph}
  {name other : String} {model : Model}

/-- A parameter of the one type is like one of the other. -/
theorem alike_referred (hlib : lib.WritesJson number) (hget : graph.get? name = some model)
    (halias : model.aliasOf = none)
    (hscalar : ∀ p, graph.scalarOf? (.named other) = some p → p.isWrittenAlike = true)
    {field : Field} {value : Value α}
    (hadmits : (field.unfold name (.named other)).Admits graph value)
    (hnumbered : (field.unfold name (.named other)).Numbered number graph value) :
    Alike lib graph name (.named other) field value := by
  refine alike_of_single rfl hadmits fun v hv hfits => ?_
  by_cases hname : field.type = .named name
  · have htype : (field.unfold name (.named other)).type = .named other := by
      show field.type.unfold name (.named other) = _
      rw [TypeToken.unfold, if_pos hname]
    rw [htype] at hfits ⊢
    rw [hname, wireKind_of_aliasOf_none hget halias]
    refine ⟨.json v, wireText_alike hlib hscalar hfits fun p hp a heq => ?_⟩
    rw [Field.Numbered, htype] at hnumbered
    refine hnumbered p hp a ?_
    rwa [heq] at hv
  · have htype : (field.unfold name (.named other)).type = field.type := by
      show field.type.unfold name (.named other) = _
      rw [TypeToken.unfold, if_neg hname]
    rw [htype] at hfits ⊢
    exact ⟨hfits, rfl⟩

/-- The arguments of a row of parameters. -/
theorem forall₂_alike_referred (hlib : lib.WritesJson number) (hget : graph.get? name = some model)
    (halias : model.aliasOf = none)
    (hscalar : ∀ p, graph.scalarOf? (.named other) = some p → p.isWrittenAlike = true)
    {fields : List Field} {values : List (Value α)}
    (hadmits : List.Forall₂ (Field.Admits graph)
      (fields.map (Field.unfold name (.named other))) values)
    (hnumbered : List.Forall₂ (Field.Numbered number graph)
      (fields.map (Field.unfold name (.named other))) values) :
    List.Forall₂ (Alike lib graph name (.named other)) fields values := by
  induction fields generalizing values with
  | nil =>
    cases hadmits
    exact .nil
  | cons field rest ih => cases hadmits with
    | cons hfirst hrest => cases hnumbered with
      | cons hnumber hmore =>
        exact .cons (alike_referred hlib hget halias hscalar hfirst hnumber) (ih hrest hmore)

/-- **Requests with the one type are those with the other** exactly if no scalar is behind the other
type, or one that is written in JSON as it is on the wire. -/
theorem sendsAsReferred_iff [Nonempty α] (hlib : lib.WritesJson number)
    (hget : graph.get? name = some model) (halias : model.aliasOf = none) :
    SendsAsReferred lib number graph name other ↔
      ∀ p, graph.scalarOf? (.named other) = some p → p.isWrittenAlike = true := by
  constructor
  · intro h p hp
    cases halike : p.isWrittenAlike with
    | true => rfl
    | false =>
      obtain ⟨value, hfits, hnumber, hne⟩ := exists_wireText_ne hlib hp halike
      -- The value is sent through a probing endpoint, where the path is the text of the value.
      have hreferred := admits_probe rfl hfits
      have hkind := wireKind_of_aliasOf_none hget halias
      have hadmits : (Field.param "key" (.named name) .path true).Admits graph value :=
        admits_probe rfl (hkind ▸ .json value)
      have hnumbered : (probed value).Numbered number graph (probe (.named other)) := by
        refine ⟨.cons (fun q hq a heq => ?_) .nil, .nil⟩
        cases hp.symm.trans hq
        exact hnumber a heq
      have hsame := h (probe (.named name)) (probed value) required_probe
      rw [unfold_probe] at hsame
      have hpaths := congrArg (Option.map Request.path) (hsame (fit_probed hreferred) hnumbered)
      rw [send_probe hadmits, send_probe hreferred, fieldWireText_scalar rfl,
        fieldWireText_scalar rfl] at hpaths
      -- The rest of the path is the same, so equal paths would give equal texts.
      have htexts : lib.wireText (wireKind graph (.named name)) value =
          lib.wireText (wireKind graph (.named other)) value :=
        String.append_right_inj _ |>.1 (Option.some.inj hpaths)
      rw [hkind] at htexts
      exact absurd htexts.symm hne
  · -- For scalars written alike every parameter is sent alike, one by one.
    intro hscalar endpoint args hrequired hfit hnumbered
    have hpath := forall₂_alike_referred hlib hget halias hscalar hfit.path hnumbered.path
    have hquery := forall₂_alike_referred hlib hget halias hscalar hfit.query hnumbered.query
    exact send_unfold hpath hquery hrequired hfit

end Requests

/-! ## Components of a document -/

namespace Document

variable {doc : Document} {name : String} {schema : Schema} {reference : String}

/-- What can be embedded is a model, and its type goes by its name. -/
theorem typeOf_of_embeds {graph : Graph} (h : embeds graph name = true) :
    typeOf graph (.named name) = .path name := by
  rw [typeOf, if_pos (embedsWithin_iff.1 h).contains]

/-- The model of a component that is just a reference is a composition of what it refers to. -/
theorem get?_of_bareReference (h : doc.foremost? name = some schema)
    (href : schema.bareReference? = some reference) :
    ∃ model, (Graph.ofDocument doc).get? name = some model ∧ model.aliasOf = none ∧
      model.shape = .composition ∧ model.union = false ∧
      model.children.toList = [Schema.referencedType reference] := by
  obtain ⟨before, after, -, hstored, -⟩ := foremost_stored h
  rw [buildModel_of_reference href] at hstored
  exact ⟨_, hstored, rfl, rfl, rfl, rfl⟩

/-- Behind the name of a component that is a scalar there is that scalar. -/
theorem scalarOf?_of_scalar {p : Primitive} (h : doc.foremost? name = some schema)
    (hb : schema.bareReference? = none) (hc : schema.composition? = none)
    (hp : schema.hasProperties = false)
    (hs : (schema.isScalar || schema.literals.isSome) = true)
    (htoken : schema.aliasToken = .primitive p) :
    (Graph.ofDocument doc).scalarOf? (.named name) = some p := by
  obtain ⟨before, after, -, hstored, -⟩ := foremost_stored h
  rw [buildModel_of_scalar hb hc hp hs] at hstored
  have halias := congrArg some htoken
  exact Graph.scalarOf?_eq_some_iff.2 ⟨[name], .viaAlias hstored halias (.scalar p)⟩

/-- **A component that is just a reference behaves as the component that it refers to,** but for one
thing.  It is written in the same JSON, whatever the other one is.  In paths and queries it is
written alike exactly if the other one has no scalar behind it, or one whose JSON is its wire
text. -/
theorem reference_alike_iff [Nonempty α] {lib : Library α} {number : Primitive → α → Prop}
    (hlib : lib.WritesJson number) (foreign : String → Json → Prop)
    (h : doc.foremost? name = some schema) (href : schema.bareReference? = some reference) :
    let graph := Graph.ofDocument doc
    let other := Schema.referencedType reference
    (∀ json, Sdk.Writes foreign graph (typeOf graph (.named other)) json →
      Sdk.Writes foreign graph (typeOf graph (.named name)) json) ∧
    (embeds graph other = true → ∀ json,
      Sdk.Writes foreign graph (typeOf graph (.named name)) json →
        Sdk.Writes foreign graph (typeOf graph (.named other)) json) ∧
    (SendsAsReferred lib number graph name other ↔
      ∀ p, graph.scalarOf? (.named other) = some p → p.isWrittenAlike = true) := by
  intro graph other
  -- The component of a bare reference has one child and no alias: that shape decides all three.
  obtain ⟨model, hget, halias, hshape, hunion, hchildren⟩ := get?_of_bareReference h href
  have hown : typeOf graph (.named name) = .path name := by
    rw [typeOf, if_pos (Graph.contains_iff.2 ⟨model, hget⟩)]
  refine ⟨fun json hwritten => ?_, fun hembeds json hwritten => ?_,
    sendsAsReferred_iff hlib hget halias⟩
  · -- Reading the target as the component always works: flattened, or as any value.
    rw [hown]
    cases hembeds : embeds graph other with
    | true =>
      rw [typeOf_of_embeds hembeds] at hwritten
      exact (writes_iff_of_embeds path_ne_anyValue_of_get? hget hshape hunion hchildren hembeds).2
        hwritten
    | false =>
      exact writes_of_not_embeds hget (path_ne_anyValue_of_get? hget) hshape hchildren hembeds json
  · -- The other way asks for the embedding, since otherwise any value is accepted.
    rw [typeOf_of_embeds hembeds]
    rw [hown] at hwritten
    exact (writes_iff_of_embeds path_ne_anyValue_of_get? hget hshape hunion hchildren hembeds).1
      hwritten

/-! ### A name for a text and one for a number -/

/-- A number, as it is shown, and whether its type has fractions. -/
structure Figure where
  shown : String
  fractional : Bool

/-- Numbers have fractions in all types but those of whole numbers. -/
def Figure.IsOf (p : Primitive) (figure : Figure) : Prop :=
  figure.fractional = !p.isWrittenAlike

/-- A library whose numbers with fractions are whole, but have a point in JSON. -/
def figureLibrary : Library Figure where
  word figure := figure.shown
  display figure := figure.shown
  format _ _ := "1970-01-01"
  rfc3339 _ := "1970-01-01T00:00:00Z"
  json
    | .text s => some (Json.quotedText s)
    | .symbol figure => some (Json.quotedText figure.shown)
    | .shown figure => some (if figure.fractional then figure.shown ++ ".0" else figure.shown)
    | .date _ => some (Json.quotedText "1970-01-01")
    | .time _ => some (Json.quotedText "1970-01-01T00:00:00Z")
    | .bool b => some (if b then "true" else "false")
    | _ => none

/-- The library writes JSON in the usual way. -/
theorem figureLibrary_writesJson : figureLibrary.WritesJson Figure.IsOf where
  text _ := rfl
  symbol _ := rfl
  date _ := ⟨_, rfl⟩
  unquotedDate _ := by
    show '"' ∉ "1970-01-01".toList
    decide
  time _ := ⟨_, rfl⟩
  unquotedTime _ := by
    show '"' ∉ "1970-01-01T00:00:00Z".toList
    decide
  bool _ := rfl
  whole p figure _ halike hof := by
    have hwhole : figure.fractional = false := by rw [hof, halike]; rfl
    simp [figureLibrary, hwhole]
  real p _ halike := by
    refine ⟨⟨"1", true⟩, "1.0", ?_, rfl, by decide⟩
    show true = !p.isWrittenAlike
    rw [halike]
    rfl

/-- A text and a whole number, and another component that refers to each. -/
def referringDocument : Document where
  components := some { schemas := some (.ofList [
    ("Extent", schemaReference "Size"),
    ("Label", { type := some (.single "string") }),
    ("Size", { type := some (.single "integer") }),
    ("Tag", schemaReference "Label")]) }

/-- All that is written as a label is written as a tag, but requests differ.  With the number there
is no difference. -/
theorem reference_alike_iff_tag :
    let graph := Graph.ofDocument referringDocument
    let foreign (name : String) (json : Json) := name = "String" ∧ ∃ s, json = .text s
    (∀ json, Sdk.Writes foreign graph (typeOf graph (.named "Label")) json →
      Sdk.Writes foreign graph (typeOf graph (.named "Tag")) json) ∧
    ¬ SendsAsReferred figureLibrary Figure.IsOf graph "Tag" "Label" ∧
    SendsAsReferred figureLibrary Figure.IsOf graph "Extent" "Size" := by
  intro graph foreign
  have : Nonempty Figure := ⟨⟨"1", false⟩⟩
  have hnamed : referringDocument.namedSchemas = [
      ("Extent", schemaReference "Size"), ("Label", { type := some (.single "string") }),
      ("Size", { type := some (.single "integer") }), ("Tag", schemaReference "Label")] := rfl
  have hforemost {name : String} {schema : Schema}
      (hfind : referringDocument.namedSchemas.find? (fun entry => entry.1 == name) =
        some (name, schema)) : referringDocument.foremost? name = some schema := by
    rw [foremost?, hfind]
    rfl
  -- Four components, and which of them holds a scalar is read off the document.
  rw [hnamed] at hforemost
  have htext : graph.scalarOf? (.named "Label") = some .string :=
    scalarOf?_of_scalar (hforemost rfl) rfl rfl rfl rfl rfl
  have hnumber : graph.scalarOf? (.named "Size") = some .integer :=
    scalarOf?_of_scalar (hforemost rfl) rfl rfl rfl rfl rfl
  have hown : referringDocument.foremost? "Tag" = some (schemaReference "Label") := hforemost rfl
  have hother : referringDocument.foremost? "Extent" = some (schemaReference "Size") :=
    hforemost rfl
  have htag := reference_alike_iff figureLibrary_writesJson foreign hown rfl
  have hextent := reference_alike_iff figureLibrary_writesJson foreign hother rfl
  have hlabel : Schema.referencedType ("#/components/schemas/" ++ "Label") = "Label" := by
    decide +kernel
  have hsize : Schema.referencedType ("#/components/schemas/" ++ "Size") = "Size" := by
    decide +kernel
  rw [hlabel] at htag
  rw [hsize] at hextent
  -- A text is the scalar at which the condition fails; an integer is one at which it holds.
  refine ⟨htag.1, fun h => ?_, hextent.2.2.2 fun p hp => ?_⟩
  · exact absurd (htag.2.2.1 h _ htext) (by decide)
  · cases hnumber.symm.trans hp
    rfl

end Document

end ClientForge
