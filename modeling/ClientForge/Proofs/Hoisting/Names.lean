/-
  What the models of a run are called.

  A document gives names itself: the type names of its components, made of their keys, and the names
  of its operations.  Every model of a run has such a name with words and numbers after it, if any
  (`Sdk.exists_givenName`), for a made-up name is put together from the one that owns it, and is
  numbered if it was taken.

  That settles which names are legal (`Sdk.names_legal`).

  * The type name of a key is an identifier whenever the key has a letter or digit: what stands
    between is left out, and a digit at the front gets a letter before it.
  * The name of an operation without an identifier begins with the word for its HTTP method, so it is
    an identifier whatever its route is.
  * The identifier of an operation is taken as it stands, with its first letter raised.  Nothing is
    left out of it, so a hyphen in it ends up in every name that is made of it; this is the one way in
    which a run comes to names that are none.

  An ending never makes a legal name illegal, or the other way round, because all that is ever put
  behind a name is letters and digits.  The methods of a client are in snake case, where it is only a
  digit at the front that matters (`DigitFirst`).
-/
import ClientForge.Proofs.Hoisting.Definitions
import ClientForge.Proofs.Hoisting.Origin
import ClientForge.Proofs.Models.WellFormed
import ClientForge.Proofs.Pruning.Closed

namespace ClientForge

open ClientForge.Naming ClientForge.Extraction

/-! ## Names that a document gives -/

namespace Document

/-- The keys of the components that can get a model. -/
def componentKeys (doc : Document) : List String :=
  doc.schemas.keys ++ doc.responses.keys ++ doc.requestBodies.keys

/-- The name is the identifier that an operation visited has in the document, its first letter
raised. -/
def OperationName (doc : Document) (routes : List String) (name : String) : Prop :=
  ∃ visit ∈ visits doc routes, ∃ id, Visit.id visit = some id ∧ name = endpointName id

/-- The document gives the name itself, on the routes listed. -/
inductive GivenName (doc : Document) (routes : List String) : String → Prop
  /-- The type name of a component. -/
  | component {key : String} (h : key ∈ doc.componentKeys) : GivenName doc routes (typeName key)
  /-- The name of an operation visited that has no identifier. -/
  | route {visit : Visit} (h : visit ∈ visits doc routes) (hnone : Visit.id visit = none) :
      GivenName doc routes (fallbackName visit.2.2.1 visit.1)
  /-- The name of one that has an identifier. -/
  | operation {name : String} (h : doc.OperationName routes name) : GivenName doc routes name

/-- The name of every operation visited is given. -/
theorem GivenName.of_visit {doc : Document} {routes : List String} {visit : Visit}
    (h : visit ∈ visits doc routes) : doc.GivenName routes (Visit.name visit) := by
  cases hid : Visit.id visit with
  | none =>
    rw [Visit.name_of_id_none hid]
    exact .route h hid
  | some id => exact .operation ⟨visit, h, id, hid, Visit.name_of_id_some hid⟩

/-- Every component and every operation with an identifier has a letter or digit in its name. -/
structure Lettered (doc : Document) : Prop where
  components : ∀ key ∈ doc.componentKeys, HasLetter key
  operations : ∀ visit ∈ visits doc [], ∀ id ∈ Visit.id visit, HasLetter id

/-- The named schemas of a document have the type names of its components. -/
theorem mem_componentKeys_of_namedSchema {doc : Document} {entry : String × Schema}
    (h : entry ∈ doc.namedSchemas) : ∃ key ∈ doc.componentKeys, entry.1 = typeName key := by
  have hkeys : ∀ {α : Type} (table : Table α) (pair : String × α), pair ∈ table.entries →
      pair.1 ∈ table.keys := fun table pair hpair => List.mem_map_of_mem hpair
  unfold componentKeys
  simp only [namedSchemas, List.mem_append] at h ⊢
  rcases h with (h | h) | h
  · obtain ⟨pair, hpair, rfl⟩ := List.mem_map.1 h
    exact ⟨pair.1, Or.inl (Or.inl (hkeys _ _ hpair)), rfl⟩
  · obtain ⟨pair, hpair, h⟩ := List.mem_filterMap.1 h
    obtain ⟨schema, -, rfl⟩ := Option.map_eq_some_iff.1 h
    exact ⟨pair.1, Or.inl (Or.inr (hkeys _ _ hpair)), rfl⟩
  · obtain ⟨pair, hpair, h⟩ := List.mem_filterMap.1 h
    obtain ⟨schema, -, rfl⟩ := Option.map_eq_some_iff.1 h
    exact ⟨pair.1, Or.inr (hkeys _ _ hpair), rfl⟩

end Document

/-- **Every model of a run** has a name that the document gives, with an ending. -/
theorem Sdk.exists_givenName {doc : Document} {routes : List String} {surface : Sdk.Surface}
    (h : Sdk.surface doc routes = .ok surface) {model : Model}
    (hmodel : model ∈ surface.models.toList) :
    ∃ base, doc.GivenName routes base ∧ Extends base model.name := by
  obtain ⟨extraction, hextract, rfl⟩ := exists_of_surface h
  have hmerged := Graph.mem_toList.1 (Graph.mem_toList_prune.1 hmodel).1
  rcases (Document.get?_mergedGraph hextract).1 hmerged with hdoc | ⟨hmem, -⟩
  · have hbuilt := Document.mem_builtModels_of_mem_toList (Graph.mem_toList.2 hdoc)
    obtain ⟨entry, hentry, hname, -⟩ := Document.stemsFrom_of_mem_builtModels hbuilt
    obtain ⟨key, hkey, heq⟩ := Document.mem_componentKeys_of_namedSchema hentry
    exact ⟨typeName key, .component hkey, heq ▸ hname⟩
  · obtain ⟨visit, hvisit, hname, -⟩ := Document.stemsFrom_of_mem_synthesized hextract hmem
    exact ⟨Visit.name visit, .of_visit hvisit, hname⟩

/-- A model that an endpoint mentions is kept. -/
theorem Graph.mem_toList_prune_of_mentions {graph : Graph} {endpoints : List Endpoint}
    {endpoint : Endpoint} {name : String} {model : Model} (hendpoint : endpoint ∈ endpoints)
    (hmentions : endpoint.Mentions name) (hmodel : graph.get? name = some model) :
    model ∈ (graph.prune endpoints).toList := by
  obtain rfl : model.name = name := Graph.name_of_get? hmodel
  exact Graph.mem_toList_prune.2 ⟨Graph.mem_toList.2 hmodel,
    .mentioned endpoint hendpoint hmentions⟩

/-! ## Operations without an identifier -/

namespace Extraction

/-- Its first letter or digit is that of its method. -/
theorem exists_letters_fallbackName (method : Method) (route : String) :
    ∃ c cs, letters (fallbackName method route).toList = c :: cs ∧ c.isDigit = false := by
  have hword : ∃ c cs, methodWord method = c :: cs ∧ c.isDigit = false := by
    cases method <;> exact ⟨_, _, rfl, by decide⟩
  obtain ⟨c, cs, hword, hdigit⟩ := hword
  exact ⟨c, cs ++ letters route.toList, by rw [letters_fallbackName, hword, List.cons_append],
    hdigit⟩

/-- The name of an operation without an identifier is an identifier. -/
theorem isIdentifier_fallbackName (method : Method) (route : String) :
    isIdentifier (fallbackName method route) = true := by
  obtain ⟨first, rest, hletters, hdigit⟩ := exists_letters_fallbackName method route
  have halphanum : Alphanum (fallbackName method route).toList := alphanum_exportedAscii _
  unfold isIdentifier
  generalize (fallbackName method route).toList = name at hletters halphanum
  cases name with
  | nil => cases hletters
  | cons c cs =>
    obtain ⟨hc, hcs⟩ := List.forall_mem_cons.1 halphanum
    rw [letters_cons_of_alphanum hc] at hletters
    obtain rfl := (List.cons.inj hletters).1
    refine isIdentifierList_of_alpha ?_ (Alphanum.plain hcs)
    exact forall_ascii (p := fun c => c.isAlphanum = true → c.toLower.isDigit = false →
      c.isAlpha = true) (by decide) (toNat_lt_of_isAlphanum hc) hc hdigit

/-- It has a letter, that of its method. -/
theorem hasLetter_fallbackName (method : Method) (route : String) :
    HasLetter (fallbackName method route) := by
  obtain ⟨c, cs, hletters, -⟩ := exists_letters_fallbackName method route
  rw [hasLetter_iff, hletters]
  exact List.cons_ne_nil c cs

/-- It begins with no small letter. -/
theorem raised_fallbackName (method : Method) (route : String) :
    Raised (fallbackName method route).toList := by
  rw [fallbackName, exportedAscii, exported, String.toList_ofList]
  exact raised_capitalize _

end Extraction

namespace Document.GivenName

variable {doc : Document} {routes : List String} {base : String}

/-- What a document gives begins with no small letter. -/
theorem raised (h : doc.GivenName routes base) : Raised base.toList := by
  cases h with
  | component hkey => exact raised_typeName _
  | route => exact raised_fallbackName _ _
  | operation hname =>
    obtain ⟨visit, -, id, -, rfl⟩ := hname
    rw [endpointName, capitalized, String.toList_ofList]
    exact raised_capitalize _

/-- What a document gives has a letter or digit, if its components and operations have. -/
theorem hasLetter (hletters : doc.Lettered) (h : doc.GivenName routes base) : HasLetter base := by
  cases h with
  | component hkey => exact hasLetter_typeName (hletters.components _ hkey)
  | route => exact hasLetter_fallbackName _ _
  | operation hname =>
    obtain ⟨visit, hvisit, id, hid, rfl⟩ := hname
    exact hasLetter_capitalized (hletters.operations visit (mem_visits_nil hvisit) id hid)

/-- Only the identifiers of operations may fail to be identifiers. -/
theorem isIdentifier_or (hletters : doc.Lettered) (h : doc.GivenName routes base) :
    isIdentifier base = true ∨ doc.OperationName routes base := by
  cases h with
  | component hkey => exact Or.inl (isIdentifier_typeName (hletters.components _ hkey))
  | route => exact Or.inl (isIdentifier_fallbackName _ _)
  | operation hname => exact Or.inr hname

end Document.GivenName

/-! ## Legal names -/

/-- The first letter or digit is a digit. -/
def DigitFirst (text : String) : Prop := ∃ c ∈ (letters text.toList).head?, c.isDigit = true

/-- The name of an operation can only be so if its identifier is. -/
theorem Document.operationName_of_digitFirst {doc : Document} {routes : List String} {visit : Visit}
    (hvisit : visit ∈ visits doc routes) (h : DigitFirst (Visit.name visit)) :
    doc.OperationName routes (Visit.name visit) := by
  cases hid : Visit.id visit with
  | none =>
    obtain ⟨c, hc, hdigit⟩ := h
    obtain ⟨first, rest, hletters, hfirst⟩ :=
      exists_letters_fallbackName visit.2.2.1 visit.1
    rw [Visit.name_of_id_none hid, hletters] at hc
    cases hc
    cases hfirst.symm.trans hdigit
  | some id => exact ⟨visit, hvisit, id, hid, Visit.name_of_id_some hid⟩

/-- **The names of a run are legal** unless the document gives them otherwise.  A method can only
fail where the identifier of its operation has a digit first, and a model only where it is called
`Self` or extends the identifier of an operation that is itself none. -/
theorem Sdk.names_legal {doc : Document} {routes : List String} {surface : Sdk.Surface}
    (hletters : doc.Lettered) (h : Sdk.surface doc routes = .ok surface) :
    (∀ endpoint ∈ surface.endpoints, LegalMethod (methodIdent endpoint.name) ∨
      doc.OperationName routes endpoint.name ∧ DigitFirst endpoint.name) ∧
    ∀ model ∈ surface.models.toList, LegalName model.name ∨ model.name = "Self" ∨
      ∃ base, doc.OperationName routes base ∧ isIdentifier base = false ∧
        Extends base model.name := by
  refine ⟨fun endpoint hendpoint => ?_, fun model hmodel => ?_⟩
  · -- A method identifier goes wrong only through a digit in front, and only an operation's own
    -- name can bring one: routes give names that start with their method.
    by_cases hdigit : DigitFirst endpoint.name
    · obtain ⟨extraction, hextract, rfl⟩ := exists_of_surface h
      obtain ⟨visit, hvisit, hname⟩ := List.mem_map.1
        (map_name_endpoints hextract ▸ List.mem_map_of_mem hendpoint)
      rw [← hname] at hdigit ⊢
      exact Or.inr ⟨Document.operationName_of_digitFirst hvisit hdigit, hdigit⟩
    · refine Or.inl ((legalMethod_methodIdent_iff endpoint.name).2 fun c hc => ?_)
      exact Bool.eq_false_iff.2 fun hc' => hdigit ⟨c, hc, hc'⟩
  · -- A model's name is judged by the given name it extends; what the suffixes add is harmless.
    obtain ⟨base, hbase, hextends⟩ := Sdk.exists_givenName h hmodel
    have hlegal := legalName_iff_of_extends (hbase.hasLetter hletters) hbase.raised hextends
    by_cases hself : model.name = "Self"
    · exact Or.inr (Or.inl hself)
    · cases hidentifier : isIdentifier base with
      | true => exact Or.inl (hlegal.2 ⟨hidentifier, hself⟩)
      | false =>
        rcases hbase.isIdentifier_or hletters with h | h
        · cases hidentifier.symm.trans h
        · exact Or.inr (Or.inr ⟨base, h, hidentifier, hextends⟩)

/-! ## One operation -/

/-- An operation that gives what the schema describes. -/
def givingOperation (id : String) (schema : Schema) : Operation where
  id := some id
  responses := .ofList [("200",
    { content := some (.ofList [("application/json", { schema := some schema })]) })]

/-- A document with that operation, which takes nothing. -/
def givingDocument (id : String) (schema : Schema) (components : Option Components) : Document where
  paths := .ofList [("/", { get := some (givingOperation id schema) })]
  components := components

/-- The one operation is what is visited. -/
theorem visits_givingDocument (id : String) (schema : Schema) (components : Option Components) :
    visits (givingDocument id schema components) [] =
      [("/", { get := some (givingOperation id schema) }, .get, givingOperation id schema)] := rfl

/-- The document has letters where it has to, if its keys and the identifier do. -/
theorem lettered_givingDocument {id : String} {schema : Schema} {components : Option Components}
    (hkeys : ∀ key ∈ (givingDocument id schema components).componentKeys, HasLetter key)
    (hid : HasLetter id) : (givingDocument id schema components).Lettered where
  components := hkeys
  operations := by
    intro visit hvisit found hfound
    rw [visits_givingDocument] at hvisit
    obtain rfl := List.mem_singleton.1 hvisit
    cases hfound
    exact hid

/-- The only name of an operation is the one that the identifier gives. -/
theorem operationName_givingDocument {id : String} {schema : Schema}
    {components : Option Components} {name : String}
    (h : (givingDocument id schema components).OperationName [] name) : name = endpointName id := by
  obtain ⟨visit, hvisit, found, hfound, rfl⟩ := h
  rw [visits_givingDocument] at hvisit
  obtain rfl := List.mem_singleton.1 hvisit
  cases hfound
  rfl

/-- Its endpoint gives a type of the schema. -/
theorem exists_giving {id : String} {schema : Schema} {components : Option Components}
    {extraction : Extraction} (h : (givingDocument id schema components).extract []
      (Graph.ofDocument (givingDocument id schema components)) = .ok extraction) :
    ∃ endpoint ∈ extraction.endpoints, ∃ token, endpoint.response = some token ∧
      ((givingDocument id schema components).mergedGraph extraction).Stands schema token := by
  have hstands := Document.endpoints_stand h
  rw [visits_givingDocument] at hstands
  obtain ⟨endpoint, rest, hfirst, -, hendpoints⟩ := List.forall₂_cons_left_iff.1 hstands
  obtain ⟨token, htoken, hstands⟩ := hfirst.response
  refine ⟨endpoint, hendpoints ▸ List.mem_cons_self, token, htoken, ?_⟩
  -- the response stands in the operation itself, so no component names its type
  cases hbare : schema.isBareReference with
  | true | false =>
    rw [hbare] at hstands
    exact hstands

/-- A reference to the schema of that key. -/
def toSchema (key : String) : Schema where
  reference := some ("#/components/schemas/" ++ key)

/-- One component, and one operation that reads it. -/
def readingDocument (key : String) (component : Schema) : Document :=
  givingDocument "read" (toSchema key) (some { schemas := some (.ofList [(key, component)]) })

/-- A run on the document keeps the model of the component, and its endpoint gives that. -/
theorem exists_reading {key : String} {component : Schema} {surface : Sdk.Surface}
    (h : Sdk.surface (readingDocument key component) [] = .ok surface)
    (hkey : referencedKey ("#/components/schemas/" ++ key) = key) :
    (∃ endpoint ∈ surface.endpoints, endpoint.response = some (.named (typeName key))) ∧
    ∃ model ∈ surface.models.toList, model.name = typeName key := by
  obtain ⟨extraction, hextract, rfl⟩ := Sdk.exists_of_surface h
  obtain ⟨endpoint, hendpoint, token, htoken, hstands⟩ := exists_giving hextract
  have hresolve : (toSchema key).resolve = .type (.named (typeName key)) := by
    have hbare : (toSchema key).bareReference? = some ("#/components/schemas/" ++ key) := rfl
    rw [Schema.resolve_of_bareReference hbare, Schema.referencedType, hkey]
  cases hstands with
  | inline hinner => cases hinner.symm.trans hresolve
  | own hown =>
    cases hown.symm.trans hresolve
    have hnamed : (typeName key, component) ∈ (readingDocument key component).namedSchemas :=
      List.mem_singleton_self _
    obtain ⟨foremost, hforemost⟩ := Document.exists_foremost hnamed
    obtain ⟨before, after, -, hheld⟩ := (Document.defines_foremost hforemost).built
    have hmerged := (Document.get?_mergedGraph hextract).2 (Or.inl hheld)
    exact ⟨⟨endpoint, hendpoint, htoken⟩, _, Graph.mem_toList_prune_of_mentions hendpoint
      (.response _ htoken (.named _)) hmerged, Graph.name_of_get? hmerged⟩

/-- The key of a component may begin with a digit and hold a hyphen. -/
theorem Sdk.names_legal_digit :
    ∃ surface, (readingDocument "2fa-status" labelSchema).Lettered ∧
      Sdk.surface (readingDocument "2fa-status" labelSchema) [] = .ok surface ∧
      (∀ endpoint ∈ surface.endpoints, LegalMethod (methodIdent endpoint.name)) ∧
      ∃ model ∈ surface.models.toList, model.name = "T2faStatus" ∧ LegalName model.name := by
  have hletters : (readingDocument "2fa-status" labelSchema).Lettered :=
    lettered_givingDocument (List.forall_mem_singleton.2 (by decide)) (by decide)
  have hok : (Sdk.surface (readingDocument "2fa-status" labelSchema) []).isOk = true := by
    decide +kernel
  obtain ⟨surface, h⟩ := exists_of_isOk hok
  -- the only identifier of an operation is `read`
  have hread : ∀ name, (readingDocument "2fa-status" labelSchema).OperationName [] name →
      name = "Read" := by
    intro name hname
    rw [operationName_givingDocument hname]
    decide +kernel
  obtain ⟨hmethods, hmodels⟩ := Sdk.names_legal hletters h
  refine ⟨surface, hletters, h, fun endpoint hendpoint => ?_, ?_⟩
  · refine (hmethods endpoint hendpoint).resolve_right fun ⟨hname, c, hc, hdigit⟩ => ?_
    rw [hread _ hname] at hc
    revert hdigit
    rw [← Option.mem_some.1 (hc : c ∈ some 'r')]
    decide
  · obtain ⟨-, model, hmodel, hname⟩ := exists_reading h (by decide +kernel)
    have hname : model.name = "T2faStatus" := hname.trans (by decide +kernel)
    refine ⟨model, hmodel, hname, (hmodels model hmodel).resolve_right ?_⟩
    rintro (hself | ⟨base, hbase, hnot, -⟩)
    · rw [hname] at hself
      revert hself
      decide
    · rw [hread base hbase] at hnot
      revert hnot
      decide +kernel

/-- An operation whose identifier has a hyphen, and which gives an inline object. -/
def hyphenatedDocument : Document := givingDocument "get-thing" labelSchema none

/-- The name of the object's model has the hyphen too, so it is not legal. -/
theorem Sdk.names_not_legal_hyphenated :
    ∃ surface, hyphenatedDocument.Lettered ∧ Sdk.surface hyphenatedDocument [] = .ok surface ∧
      ∃ model ∈ surface.models.toList, ¬ LegalName model.name := by
  have hletters : hyphenatedDocument.Lettered := lettered_givingDocument nofun (by decide)
  have hok : (Sdk.surface hyphenatedDocument []).isOk = true := by decide +kernel
  obtain ⟨surface, h⟩ := exists_of_isOk hok
  have hkept : ∃ model, model ∈ surface.models.toList := by
    obtain ⟨extraction, hextract, rfl⟩ := Sdk.exists_of_surface h
    obtain ⟨endpoint, hendpoint, token, htoken, hstands⟩ := exists_giving hextract
    have hresolve : labelSchema.resolve = .anonymous labelSchema 0 :=
      Schema.resolve_of_properties rfl
    cases hstands with
    | own hown => cases hown.symm.trans hresolve
    | inline hinner hmade =>
      cases hinner.symm.trans hresolve
      obtain ⟨hstored, -, -⟩ := hmade
      exact ⟨_, Graph.mem_toList_prune_of_mentions hendpoint
        (.response _ htoken (.named _)) hstored⟩
  obtain ⟨model, hmodel⟩ := hkept
  obtain ⟨base, hbase, hextends⟩ := Sdk.exists_givenName h hmodel
  have hname : base = "Get-thing" := by
    cases hbase with
    | component hkey => cases hkey
    | route hvisit hnone =>
      obtain rfl := List.mem_singleton.1 hvisit
      cases hnone
    | operation hname =>
      rw [operationName_givingDocument hname]
      decide +kernel
  -- whether the model's name is legal is decided by the operation's, and that one has the hyphen
  have hlegal := legalName_iff_of_extends (hbase.hasLetter hletters) hbase.raised hextends
  refine ⟨surface, hletters, h, model, hmodel, fun hmodel => ?_⟩
  have hidentifier := (hlegal.1 hmodel).1
  rw [hname] at hidentifier
  revert hidentifier
  decide +kernel

end ClientForge
