/-
  When the methods of the client differ.

  A method is named after the identifier of its operation, or after its HTTP method and route where
  it has none.  Nothing keeps two methods apart that get one name this way, so the question is which
  can.

  * An operation that is visited twice gives one method twice: a route may be listed twice.
  * Two operations with identifiers have methods that differ as far as the document keeps the
    identifiers apart; that it does is an assumption (`declaredMethods`), since an identifier is all
    that the name is made of.
  * An operation without one has a method that begins with the word for its HTTP method and goes on
    with the letters and digits of its route.  No such word begins another (`eq_of_methodWord_begins`),
    so the HTTP method can be told from the name, and then the letters and digits of the route
    (`methodIdent_fallbackName_inj`).  Two of this kind meet only under one HTTP method on routes of
    the same letters and digits, as `/a-b` and `/a/b` are.
  * An operation without an identifier may also meet one with: nothing forbids that a document calls
    an operation what another one would be called.

  So the statement is an equivalence between what the generated interface has and what can be read off
  the document (`MayCollide`); in the second and third cases there is something to prove, and in the
  others to leave open what is open.
-/
import Mathlib.Data.List.Nodup
import Mathlib.Data.List.Pairwise
import ClientForge.Proofs.Endpoints.Extraction
import ClientForge.Proofs.Naming.Letters

namespace ClientForge

open ClientForge.Code ClientForge.Naming ClientForge.Sdk

/-! ## The interface -/

/-- The names of the methods of the interface with that name, in their order. -/
def Code.Module.interfaceMethods (m : Module) (name : String) : List String :=
  m.decls.flatMap fun
    | .interface found _ methods => if found = name then methods.map Function.name else []
    | _ => []

/-- The methods of the interface are named after the endpoints, in their order. -/
theorem interfaceMethods_clientModule (graph : Graph) (endpoints : List Endpoint) :
    (clientModule graph endpoints).interfaceMethods "ApiClient" =
      endpoints.map fun endpoint => methodIdent endpoint.name := by
  simp [Module.interfaceMethods, clientModule, methodOf, Function.comp_def]

namespace Extraction

/-! ## Names without an identifier -/

/-- The word that the name of an operation without an identifier begins with. -/
def methodWord (method : Method) : List Char := Text.lowerAscii method.name.toList

/-- No word for an HTTP method begins another. -/
theorem eq_of_methodWord_begins {method other : Method}
    (h : methodWord method <+: methodWord other) : method = other := by
  have hall : ∀ m ∈ Method.all, ∀ n ∈ Method.all, methodWord m <+: methodWord n → m = n := by
    decide
  exact hall method method.mem_all other other.mem_all h

/-- The letters and digits of such a name: the word for the HTTP method, then those of the route. -/
theorem letters_fallbackName (method : Method) (route : String) :
    letters (fallbackName method route).toList = methodWord method ++ letters route.toList := by
  have hword : letters (methodWord method) = methodWord method := by
    cases method <;> decide
  unfold fallbackName
  dsimp only
  rw [letters_exportedAscii, String.toList_append, String.toList_append, String.toList_ofList,
    letters_append, letters_append]
  exact congrArg₂ _ ((List.append_nil _).trans hword) rfl

/-- Such a name is never a keyword in snake case, so its method is just that. -/
theorem methodIdent_fallbackName (method : Method) (route : String) :
    methodIdent (fallbackName method route) = snakeCase (fallbackName method route) := by
  have hletters := (letters_snakeCase (fallbackName method route)).trans
    (letters_fallbackName method route)
  unfold methodIdent
  generalize snakeCase (fallbackName method route) = snake at hletters
  -- the letters of a keyword begin with no word for an HTTP method, and nothing has none at all
  have hnone : ∀ word ∈ "" :: keywords, ∀ m ∈ Method.all,
      ¬ methodWord m <+: letters word.toList := by
    decide
  have hnot : snake ∉ "" :: keywords := fun hmem =>
    hnone snake hmem method method.mem_all ⟨letters route.toList, hletters.symm⟩
  obtain ⟨hempty, hkeyword⟩ := not_or.1 (mt List.mem_cons.2 hnot)
  dsimp only
  rw [if_neg (mt String.isEmpty_iff.1 hempty), escapeKeyword_of_not_mem hkeyword]

/-- **Two operations without an identifier get one method** only under the same HTTP method, on
routes with the same letters and digits in the same order. -/
theorem methodIdent_fallbackName_inj {method other : Method} {route route' : String}
    (h : methodIdent (fallbackName method route) = methodIdent (fallbackName other route')) :
    method = other ∧ letters route.toList = letters route'.toList := by
  rw [methodIdent_fallbackName, methodIdent_fallbackName] at h
  have hletters : methodWord method ++ letters route.toList =
      methodWord other ++ letters route'.toList := by
    rw [← letters_fallbackName, ← letters_fallbackName, ← letters_snakeCase, h, letters_snakeCase]
  have hmethod : method = other := by
    rcases List.prefix_or_prefix_of_prefix ⟨letters route.toList, hletters⟩
      (List.prefix_append (methodWord other) (letters route'.toList)) with hprefix | hprefix
    · exact eq_of_methodWord_begins hprefix
    · exact (eq_of_methodWord_begins hprefix).symm
  subst hmethod
  exact ⟨rfl, List.append_cancel_left hletters⟩

/-! ## The methods of the operations visited -/

namespace Visit

/-- Where the operation stands. -/
def place (visit : Visit) : String × Method := (visit.1, visit.2.2.1)

/-- The identifier that the document gives the operation. -/
def id (visit : Visit) : Option String := visit.2.2.2.id

/-- The name of the operation. -/
def name (visit : Visit) : String := nameOf visit.1 visit.2.2.1 visit.2.2.2

/-- The method of the operation. -/
def ident (visit : Visit) : String := methodIdent visit.name

end Visit

/-- Along a row of visits each endpoint has the name of its operation. -/
theorem map_name_endpointsOf {doc : Document} {visits : List Visit} {names : Names}
    {built : Built (List Endpoint)} (h : endpointsOf doc visits names = .ok built) :
    built.result.map Endpoint.name = visits.map Visit.name := by
  induction visits generalizing names built with
  | nil =>
    cases h
    rfl
  | cons visit rest ih =>
    obtain ⟨endpoint, others, hfirst, hrest, rfl⟩ := exists_of_endpointsOf_cons h
    have hname : endpoint.result.name = visit.name := by
      unfold endpointOf at hfirst
      dsimp only at hfirst
      split at hfirst
      · cases hfirst
      · cases hfirst
        rfl
    rw [List.map_cons, List.map_cons, hname, ih hrest]

/-- The endpoints have the names of the operations visited. -/
theorem map_name_endpoints {doc : Document} {routes : List String} {resolved : Graph}
    {extraction : Extraction} (h : doc.extract routes resolved = .ok extraction) :
    extraction.endpoints.map Endpoint.name = (visits doc routes).map Visit.name := by
  obtain ⟨built, hbuilt, rfl⟩ := Document.exists_built_of_extract h
  exact map_name_endpointsOf hbuilt

/-- The methods of the client are those of the operations visited. -/
theorem map_ident_endpoints {doc : Document} {routes : List String} {resolved : Graph}
    {extraction : Extraction} (h : doc.extract routes resolved = .ok extraction) :
    extraction.endpoints.map (fun endpoint => methodIdent endpoint.name) =
      (visits doc routes).map Visit.ident := by
  have hnames := congrArg (List.map methodIdent) (map_name_endpoints h)
  have hident : Visit.ident = fun visit : Visit => methodIdent visit.name := rfl
  simpa only [List.map_map, Function.comp_def, hident] using hnames

section Places

variable {doc : Document} {routes : List String} {visit other : Visit}

/-- Where an operation stands tells the operation. -/
theorem eq_of_place_eq (hvisit : visit ∈ visits doc routes) (hother : other ∈ visits doc routes)
    (h : visit.place = other.place) : visit = other := by
  obtain ⟨route, item, method, op⟩ := visit
  obtain ⟨route', item', method', op'⟩ := other
  obtain ⟨rfl, rfl⟩ := Prod.mk.inj h
  obtain ⟨-, hitem, hop⟩ := mem_visits.1 hvisit
  obtain ⟨-, hitem', hop'⟩ := mem_visits.1 hother
  obtain rfl := Option.some.inj (hitem.symm.trans hitem')
  obtain rfl := Option.some.inj (hop.symm.trans hop')
  rfl

/-- An operation visited is one of the document's. -/
theorem mem_visits_nil (h : visit ∈ visits doc routes) : visit ∈ visits doc [] := by
  obtain ⟨route, item, method, op⟩ := visit
  obtain ⟨-, hitem, hop⟩ := mem_visits.1 h
  refine mem_visits.2 ⟨?_, hitem, hop⟩
  show route ∈ doc.paths.keys
  refine Table.contains_iff_mem_keys.1 ?_
  rw [Table.contains, hitem]
  rfl

end Places

/-! ## Collisions -/

/-- The methods that the document's own identifiers give, one for each operation with one. -/
def declaredMethods (doc : Document) : List String :=
  (visits doc []).filterMap fun visit : Visit =>
    visit.id.map fun id => methodIdent (endpointName id)

/-- The first operation has no identifier; if the other has none either, both have the same HTTP
method and stand on routes with the same letters and digits. -/
def MayCollide (visit other : Visit) : Prop :=
  visit.id = none ∧ (other.id = none → visit.2.2.1 = other.2.2.1 ∧
    letters visit.1.toList = letters other.1.toList)

/-- Whether two operations may collide can be computed. -/
instance (visit other : Visit) : Decidable (MayCollide visit other) :=
  inferInstanceAs (Decidable (_ ∧ (_ → _)))

section Collisions

variable {doc : Document} {routes : List String} {visit other : Visit}

/-- An operation without an identifier is named after its HTTP method and route. -/
theorem Visit.name_of_id_none (h : visit.id = none) :
    visit.name = fallbackName visit.2.2.1 visit.1 := by
  obtain ⟨route, item, method, op⟩ := visit
  rw [Visit.name, nameOf, show op.id = none from h]

/-- An operation with an identifier is named after it. -/
theorem Visit.name_of_id_some {id : String} (h : visit.id = some id) :
    visit.name = endpointName id := by
  obtain ⟨route, item, method, op⟩ := visit
  rw [Visit.name, nameOf, show op.id = some id from h]

/-- Operations with identifiers get different methods, if the document's identifiers do. -/
theorem eq_of_ident_eq_of_ids (hids : (declaredMethods doc).Nodup)
    (hvisit : visit ∈ visits doc routes) (hother : other ∈ visits doc routes) {id id' : String}
    (hid : visit.id = some id) (hid' : other.id = some id') (h : visit.ident = other.ident) :
    visit = other := by
  by_contra hne
  -- the two methods are at different places of the list, one before the other, but which is open
  have hpairwise := List.pairwise_filterMap.1 hids
  have : Std.Symm fun first second : Visit =>
      ∀ x, first.id.map (fun id => methodIdent (endpointName id)) = some x →
        ∀ y, second.id.map (fun id => methodIdent (endpointName id)) = some y → x ≠ y :=
    ⟨fun _ _ hdiffer x hx y hy heq => hdiffer y hy x hx heq.symm⟩
  refine hpairwise.forall (mem_visits_nil hvisit) (mem_visits_nil hother) hne
    visit.ident ?_ other.ident ?_ h
  · rw [Visit.ident, Visit.name_of_id_some hid, hid]
    rfl
  · rw [Visit.ident, Visit.name_of_id_some hid', hid']
    rfl

/-- **Two operations with one method** are the same operation, or one of them has no identifier and
they are of the kind that may collide. -/
theorem mayCollide_of_ident_eq (hids : (declaredMethods doc).Nodup)
    (hvisit : visit ∈ visits doc routes) (hother : other ∈ visits doc routes)
    (h : visit.ident = other.ident) :
    visit = other ∨ MayCollide visit other ∨ MayCollide other visit := by
  cases hid : visit.id with
  | none =>
    refine Or.inr (Or.inl ⟨hid, fun hid' => ?_⟩)
    rw [Visit.ident, Visit.ident, Visit.name_of_id_none hid, Visit.name_of_id_none hid'] at h
    exact methodIdent_fallbackName_inj h
  | some id => cases hid' : other.id with
    | none => exact Or.inr (Or.inr ⟨hid', fun hnone => by rw [hid] at hnone; cases hnone⟩)
    | some id' => exact Or.inl (eq_of_ident_eq_of_ids hids hvisit hother hid hid' h)

end Collisions

end Extraction

open Extraction in
/-- **When the methods of the interface differ:** no operation is visited twice, and no operation
without an identifier gets the method of another one.  Two operations without an identifier need to
be compared only if they have the same HTTP method and routes of the same letters and digits. -/
theorem Document.methods_nodup_iff {doc : Document} {routes : List String} {resolved : Graph}
    {extraction : Extraction} (hids : (declaredMethods doc).Nodup)
    (h : doc.extract routes resolved = .ok extraction) (graph : Graph) :
    ((clientModule graph extraction.endpoints).interfaceMethods "ApiClient").Nodup ↔
      ((visits doc routes).map Visit.place).Nodup ∧
        ∀ visit ∈ visits doc routes, ∀ other ∈ visits doc routes,
          Visit.place visit ≠ Visit.place other → MayCollide visit other →
            Visit.ident visit ≠ Visit.ident other := by
  rw [interfaceMethods_clientModule, map_ident_endpoints h]
  constructor
  · intro hnodup
    have hvisits : (visits doc routes).Nodup := hnodup.of_map
    refine ⟨hvisits.map_on fun visit hvisit other hother => eq_of_place_eq hvisit hother, ?_⟩
    intro visit hvisit other hother hplace _ hident
    exact hplace (congrArg _ (List.inj_on_of_nodup_map hnodup hvisit hother hident))
  · rintro ⟨hplaces, hdiffer⟩
    refine hplaces.of_map.map_on fun visit hvisit other hother hident => ?_
    by_contra hne
    have hplace : visit.place ≠ other.place := fun h => hne (eq_of_place_eq hvisit hother h)
    rcases mayCollide_of_ident_eq hids hvisit hother hident with heq | hmay | hmay
    · exact hne heq
    · exact hdiffer visit hvisit other hother hplace hmay hident
    · exact hdiffer other hother visit hvisit hplace.symm hmay hident.symm

/-! ## Notes with and without identifiers -/

/-- Notes are listed under an identifier; the two operations on one note have none. -/
def notesDocument : Document where
  paths := .ofList [
    ("/notes", { get := some { id := some "list-notes" } }),
    ("/notes/last", { get := some {}, delete := some {} })]

open Extraction in
/-- The two operations on one note have different HTTP methods, so all three methods differ. -/
theorem Document.methods_nodup_iff_notes :
    ∃ extraction, (declaredMethods notesDocument).Nodup ∧
      notesDocument.extract [] .empty = .ok extraction ∧
      ((clientModule .empty extraction.endpoints).interfaceMethods "ApiClient").Nodup := by
  have hok : (notesDocument.extract [] .empty).isOk = true := by decide +kernel
  have hids : (declaredMethods notesDocument).Nodup := by decide +kernel
  have hapart : ((visits notesDocument []).map Visit.place).Nodup ∧
      ∀ visit ∈ visits notesDocument [], ∀ other ∈ visits notesDocument [],
        Visit.place visit ≠ Visit.place other → MayCollide visit other →
          Visit.ident visit ≠ Visit.ident other := by
    decide +kernel
  obtain ⟨extraction, h⟩ := exists_of_isOk hok
  exact ⟨extraction, hids, h, (methods_nodup_iff hids h .empty).2 hapart⟩

/-- The routes of two operations without identifiers have the same letters. -/
def hyphenDocument : Document where
  paths := .ofList [
    ("/a-b", { get := some {} }),
    ("/a/b", { get := some {} })]

open Extraction in
/-- No two identifiers of the document give one method, since it has none; both methods of the
interface are `get_ab`. -/
theorem Document.methods_not_nodup_hyphen :
    ∃ extraction, (declaredMethods hyphenDocument).Nodup ∧
      hyphenDocument.extract [] .empty = .ok extraction ∧
      ¬ ((clientModule .empty extraction.endpoints).interfaceMethods "ApiClient").Nodup := by
  have hok : (hyphenDocument.extract [] .empty).isOk = true := by decide +kernel
  have hids : (declaredMethods hyphenDocument).Nodup := by decide +kernel
  have hmeet : ¬ ((visits hyphenDocument []).map Visit.ident).Nodup := by decide +kernel
  obtain ⟨extraction, h⟩ := exists_of_isOk hok
  refine ⟨extraction, hids, h, ?_⟩
  rwa [interfaceMethods_clientModule, map_ident_endpoints h]

end ClientForge
