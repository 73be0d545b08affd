/-
  The address that a client of a crate talks to.

  There are two ways to get a client.  The library makes one for a credential, and that one talks
  to the address the library declares, taken as it is (`Session.ofLibrary?`).  Or a caller sets an
  address, and then all slashes at its end are dropped (`Session.withBaseUrl`).  Setting the very
  address that the library declares should change nothing, and whether it does depends on that
  address alone:

  1. **Addresses** — setting an address keeps it exactly if it does not end in a slash
     (`Session.baseUrl_withBaseUrl_eq_iff`), and what comes out never ends in one.
  2. **Exchanges** — two clients of one credential send the same requests in every row of calls
     exactly if their addresses are the same, or if there is no call at all
     (`Session.exchanges_eq_iff`).  The transport may be another one after each request: it is a
     function of a state that it hands on, so nothing is assumed about what it remembers.
  3. **Slashes** — a request whose path begins with a slash joins it to the address with two of
     them exactly if the address ends in one (`Session.doublesSlash_request_iff`).

  The main statement (`Sdk.declared_address_iff`) puts these together for the crate generated for
  a document: the address is read back from the text of the library's root, so it is what the crate
  really declares.  The document at the end has a slash at the end of its address; for it the two
  clients differ on the first request.
-/
import ClientForge.Client.Basic
import ClientForge.Proofs.Template.Metadata

namespace ClientForge

/-- Whether an address has a slash at its end. -/
def EndsInSlash (address : String) : Prop := address.toList.getLast? = some '/'

namespace Client

/-! ## Calls one after the other -/

/-- A call of a client. -/
structure Call where
  method : String
  path : String
  body : Option Json

/-- What a client sends in a row of calls, and what it gets.  The transport may be another one after
each request. -/
def Session.exchanges {σ : Type} (session : Session)
    (transport : σ → Request → Except Fault Answer × σ) :
    σ → List Call → List (Request × Except Fault Answer)
  | _, [] => []
  | state, call :: calls =>
    let request := session.request call.method call.path call.body
    let (answer, next) := transport state request
    (request, answer) :: session.exchanges transport next calls

/-- Two clients of one credential send the same exactly if they talk to the same address. -/
theorem Session.exchanges_eq_iff {σ : Type} {first second : Session}
    (hkey : first.apiKey = second.apiKey) (transport : σ → Request → Except Fault Answer × σ)
    (state : σ) (calls : List Call) :
    first.exchanges transport state calls = second.exchanges transport state calls ↔
      calls = [] ∨ first.baseUrl = second.baseUrl := by
  constructor
  · intro h
    cases calls with
    | nil => exact Or.inl rfl
    | cons call calls =>
      have hrequest := congrArg (fun sent => sent.head?.map fun pair => pair.1.url) h
      simp only [exchanges, request, List.head?_cons, Option.map_some, Option.some_inj] at hrequest
      exact Or.inr (String.append_left_inj _ |>.1 hrequest)
  · rintro (rfl | haddress)
    · rfl
    · have heq : first = second := by
        cases first
        cases second
        cases hkey
        cases haddress
        rfl
      rw [heq]

/-! ## Addresses -/

/-- Whether the address and the path of a request are joined with two slashes. -/
def Request.DoublesSlash (request : Request) : Prop :=
  request.path.toList.head? = some '/' ∧ ∃ before, request.url = before ++ "/" ++ request.path

/-- A path that begins with a slash is put behind an address with two of them exactly if the address
has one at its end. -/
theorem Session.doublesSlash_request_iff (session : Session) (method : String) {path : String}
    (hpath : path.toList.head? = some '/') (body : Option Json) :
    (session.request method path body).DoublesSlash ↔ EndsInSlash session.baseUrl := by
  have hurl : ∀ before : String, session.baseUrl ++ path = before ++ "/" ++ path ↔
      session.baseUrl = before ++ "/" := fun before => String.append_left_inj path
  simp only [Request.DoublesSlash, request, hpath, true_and, hurl, EndsInSlash]
  constructor
  · rintro ⟨before, hbase⟩
    simp [hbase]
  · intro hlast
    obtain ⟨front, hfront⟩ := List.getLast?_eq_some_iff.1 hlast
    refine ⟨String.ofList front, ?_⟩
    rw [← String.toList_inj, hfront]
    simp

/-- **Setting an address keeps it** exactly if there is no slash at its end to be dropped. -/
theorem Session.baseUrl_withBaseUrl_eq_iff (session : Session) (address : String) :
    (session.withBaseUrl address).baseUrl = address ↔ ¬ EndsInSlash address := by
  rw [withBaseUrl, ← String.toList_inj, String.toList_ofList]
  constructor
  · intro hself hends
    rw [EndsInSlash, ← hself] at hends
    cases Text.getLast?_dropEndWhile hends
  · intro hends
    refine Text.dropEndWhile_eq_self fun c hlast => ?_
    by_contra hslash
    obtain rfl : c = '/' := by simpa using hslash
    exact hends hlast

/-- All slashes at the end are dropped, so none is left there. -/
theorem Session.not_endsInSlash_withBaseUrl (session : Session) (address : String) :
    ¬ EndsInSlash (session.withBaseUrl address).baseUrl := by
  intro hends
  rw [EndsInSlash, withBaseUrl, String.toList_ofList] at hends
  cases Text.getLast?_dropEndWhile hends

/-- The client that a library makes for a credential: it talks to the declared address. -/
def Session.ofLibrary? (root apiKey : String) : Option Session :=
  (Template.declaredAddress? root).map fun address => ⟨apiKey, address⟩

end Client

open Client

/-- **Setting the declared address again.**  In the crate for a document, the client that the
library makes and the same client with the declared address set send the same in a row of calls
exactly if the row is empty or the address of the document does not end in a slash.  The first
doubles the slash before a path exactly if it does, the second never. -/
theorem Sdk.declared_address_iff {doc : Document} {config : Config} {address : String}
    {surface : Surface} (haddress : doc.baseUrl? = some address)
    (hsurface : Sdk.surface doc config.routes = .ok surface) :
    ∃ files root,
      generate doc config Template.embedded = .ok files ∧ files.get? "src/lib.rs" = some root ∧
      files.get? "src/transport.rs" = some Template.transportModule ∧
      ∀ apiKey, ∃ made, Session.ofLibrary? root apiKey = some made ∧
        (∀ {σ : Type} (transport : σ → Request → Except Fault Answer × σ) (state : σ)
            (calls : List Call),
          made.exchanges transport state calls =
              (made.withBaseUrl address).exchanges transport state calls ↔
            calls = [] ∨ ¬ EndsInSlash address) ∧
        ∀ (method path : String) (body : Option Json), path.toList.head? = some '/' →
          ((made.request method path body).DoublesSlash ↔ EndsInSlash address) ∧
          ¬ ((made.withBaseUrl address).request method path body).DoublesSlash := by
  obtain ⟨files, hfiles, -, hroot, htransport⟩ := generate_embedded haddress hsurface
  refine ⟨files, _, hfiles, hroot, htransport, fun apiKey => ⟨⟨apiKey, address⟩, ?_, ?_, ?_⟩⟩
  · -- The constant in the text of the root file is read back, not taken from the template's values.
    rw [Session.ofLibrary?, Template.declaredAddress?_libraryText, Option.map_some]
  · -- Both sides talk to the same transport, so what differs is the address each session holds.
    intro σ transport state calls
    have hset : (Session.withBaseUrl ⟨apiKey, address⟩ address).apiKey = apiKey := rfl
    rw [Session.exchanges_eq_iff hset.symm]
    exact or_congr_right (eq_comm.trans (Session.baseUrl_withBaseUrl_eq_iff _ address))
  · -- A path that begins with a slash meets the address's own: doubled at one, trimmed at the
    -- other.
    intro method path body hpath
    exact ⟨Session.doublesSlash_request_iff _ method hpath body,
      (Session.doublesSlash_request_iff _ method hpath body).not.2
        (Session.not_endsInSlash_withBaseUrl _ address)⟩

/-- An API whose address ends in a slash. -/
def slashedDocument : Document where
  servers := [{ url := "https://api.example.com/" }]

/-- With a slash at the end of the declared address the library's client doubles it in every
request, and the one with the same address set does not. -/
theorem Sdk.declared_address_iff_slashed :
    slashedDocument.baseUrl? = some "https://api.example.com/" ∧
      ∃ surface, Sdk.surface slashedDocument [] = .ok surface ∧
      ∃ files root,
        generate slashedDocument {} Template.embedded = .ok files ∧
        files.get? "src/lib.rs" = some root ∧
        ∃ made, Session.ofLibrary? root "foo" = some made ∧
          (made.request "GET" "/a" none).DoublesSlash ∧
          ¬ ((made.withBaseUrl "https://api.example.com/").request "GET" "/a" none).DoublesSlash ∧
          made.exchanges (fun _ _ => (.ok ⟨200, ""⟩, ())) () [⟨"GET", "/a", none⟩] ≠
            (made.withBaseUrl "https://api.example.com/").exchanges
              (fun _ _ => (.ok ⟨200, ""⟩, ())) () [⟨"GET", "/a", none⟩] := by
  have haddress : slashedDocument.baseUrl? = some "https://api.example.com/" := rfl
  obtain ⟨surface, hsurface⟩ : ∃ surface, Sdk.surface slashedDocument [] = .ok surface :=
    ⟨_, rfl⟩
  -- The slash at the end is what the condition excludes; the answer's own content plays no part.
  have hslash : EndsInSlash "https://api.example.com/" := by
    simp [EndsInSlash]
  obtain ⟨files, root, hfiles, hroot, -, hclients⟩ :=
    @Sdk.declared_address_iff slashedDocument {} _ _ haddress hsurface
  obtain ⟨made, hmade, hsame, hdouble⟩ := hclients "foo"
  obtain ⟨hfirst, hsecond⟩ := hdouble "GET" "/a" none (by simp)
  refine ⟨haddress, surface, hsurface, files, root, hfiles, hroot, made, hmade, hfirst.2 hslash,
    hsecond, fun heq => ?_⟩
  rcases (hsame _ _ _).1 heq with hnone | hends
  · cases hnone
  · exact hends hslash

end ClientForge
