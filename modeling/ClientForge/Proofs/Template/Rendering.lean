/-
  The static files of a crate with the values of a document in them.

  Five files of a crate are the same for every document up to a few values.  Three of them come from
  templates: the manifest, the root of the library, and a page about the crate.  The other two, the
  modules of the errors and of the transport, are copied as they stand.  A template is cut into pieces —
  text, and what stands between double braces — and rendered by putting the pieces together again, with
  a value in the place of each insertion.

  What a template is cut into does not depend on the values, so the pieces of the three templates are
  found once and for all (`manifestPieces`, `libraryPieces`), and rendering is one step for each of them
  (`render?_of_pieces`).  Values are put in as they are; only the page about the crate passes one through
  a filter.

  * The manifest and the root are given line by line (`manifestText`, `libraryText`), because what they
    say is of interest.
  * Of the page it is enough that it can be rendered (`exists_render?_readme`).

  So the static files are always rendered, and a document with an address whose endpoints can be
  extracted gives a crate that has them at their places (`Sdk.generate_embedded`).

  Cutting a template is evaluated character by character.  The characters of a long text are made from
  the text rather than read off it, which the second section is for.
-/
import ClientForge.Proofs.Files.Paths
import ClientForge.Proofs.Ordered.Permutation
import ClientForge.Sdk.Generate
import ClientForge.Template.Embedded

namespace ClientForge.Template

deriving instance DecidableEq for Piece

/-! ## Rendering piece by piece -/

/-- What a template is cut into. -/
def pieces? (cs : List Char) : Option (List Piece) :=
  (piecesFrom (.text []) cs).map (trimmed false)

/-- What stands between the double braces of a template. -/
def insertions (pieces : List Piece) : List (List Char) :=
  pieces.filterMap fun
    | .insertion inside => some inside
    | _ => none

/-- What a piece adds to the text, where it adds anything. -/
def shown (context : Context) (piece : Piece) : String := (pieceText? context piece).getD ""

/-- **A template is rendered piece by piece,** once it is known what it is cut into and that what
stands between its double braces has values. -/
theorem render?_of_pieces {context : Context} {template : String} {pieces : List Piece}
    (hpieces : pieces? template.toList = some pieces)
    (hvalues : ∀ inside ∈ insertions pieces, (insertion? context inside).isSome = true) :
    render? context template = some (String.join (pieces.map (shown context))) := by
  obtain ⟨cut, hcut, rfl⟩ := Option.map_eq_some_iff.1 hpieces
  have htexts : (trimmed false cut).mapM (pieceText? context) =
      some ((trimmed false cut).map (shown context)) := by
    refine mapM_some_map _ _ _ fun piece hmem => ?_
    have hsome : (pieceText? context piece).isSome = true := by
      cases piece with
      | text cs => rfl
      | insertion inside => exact hvalues inside (List.mem_filterMap.2 ⟨_, hmem, rfl⟩)
      | comment inside => rfl
    obtain ⟨text, htext⟩ := Option.isSome_iff_exists.1 hsome
    rw [shown, htext]
    rfl
  unfold render?
  rw [hcut, Option.bind_eq_bind, Option.bind_some, htexts]
  rfl

/-! ## Texts by their characters

To read the characters off a text costs more than to make the text of them, so what depends on the
characters of a long text is found out with them given. -/

/-- The characters of two texts, one behind the other. -/
theorem append_eq_ofList {text text' : String} {cs cs' : List Char}
    (htext : text = String.ofList cs) (htext' : text' = String.ofList cs') :
    text ++ text' = String.ofList (cs ++ cs') := by
  rw [htext, htext', String.ofList_append]

/-- No lines have no characters. -/
theorem ofLines_nil_eq_ofList : ofLines [] = String.ofList [] := rfl

/-- The characters of a line more. -/
theorem ofLines_cons_eq_ofList {line : String} {lines : List String} {cs rest : List Char}
    (hline : line = String.ofList cs) (hlines : ofLines lines = String.ofList rest) :
    ofLines (line :: lines) = String.ofList (cs ++ '\n' :: rest) := by
  rw [ofLines] at hlines ⊢
  rw [List.map_cons, String.join_cons, hlines, hline, ← String.toList_inj]
  simp

/-- What is found out from the characters of a text, with the characters given. -/
theorem eq_of_ofList {α : Type} (f : List Char → α) {text : String} {cs : List Char} {result : α}
    (hchars : text = String.ofList cs) (hresult : f cs = result) : f text.toList = result := by
  rw [hchars, String.toList_ofList, hresult]

/-- A piece more, with its characters given. -/
theorem cons_piece_eq {make : List Char → Piece} {text : String} {cs : List Char}
    {pieces pieces' : List Piece} (htext : text = String.ofList cs) (hpieces : pieces = pieces') :
    make text.toList :: pieces = make cs :: pieces' := by
  rw [htext, String.toList_ofList, hpieces]

/-- A template is cut into what its characters are cut into. -/
theorem pieces?_of_ofList {template : String} {cs : List Char} {pieces pieces' : List Piece}
    (hchars : template = String.ofList cs) (hpieces : pieces = pieces')
    (hcut : pieces? cs = some pieces') : pieces? template.toList = some pieces := by
  rw [hchars, String.toList_ofList, hpieces, hcut]

/-! ## The manifest -/

/-- What the crate says about itself. -/
def summary (title version : String) : String := "Typed client for " ++ title ++ " " ++ version

/-- What holds of the characters of the title, of the version and of the words in between. -/
theorem forall_mem_summary {P : Char → Prop} (hwords : ∀ c ∈ "Typed client for ".toList, P c)
    {title version : String} : (∀ c ∈ (summary title version).toList, P c) ↔
      (∀ c ∈ title.toList, P c) ∧ ∀ c ∈ version.toList, P c := by
  have hspace : " ".toList ⊆ "Typed client for ".toList := by simp
  unfold summary
  rw [String.toList_append, String.toList_append, String.toList_append, List.forall_mem_append,
    List.forall_mem_append, List.forall_mem_append, and_iff_right hwords,
    and_iff_left fun c hc => hwords c (hspace hc)]

/-- The manifest up to the description. -/
def manifestHead (packageName : String) : String :=
  "[package]\nname = \"" ++ packageName ++ "\"\nversion = \"0.1.0\"\nedition = \"2021\""

/-- The line of the manifest that describes the package. -/
def descriptionLine (title version : String) : String :=
  "description = \"" ++ summary title version ++ "\""

/-- The manifest behind the description. -/
def manifestTail : String := ofLines [
  "publish = false",
  "",
  "[dependencies]",
  "chrono = \x7b version = \"0.4\", features = [\"serde\"] \x7d",
  "serde = \x7b version = \"1\", features = [\"derive\"] \x7d",
  "serde_json = \"1\"",
  "thiserror = \"2\""]

/-- The manifest of a package. -/
def manifestText (packageName title version : String) : String :=
  manifestHead packageName ++ "\n" ++ descriptionLine title version ++ "\n" ++ manifestTail

/-- What the template of the manifest is cut into. -/
def manifestPieces : List Piece := [
  .text "[package]\nname = \"".toList,
  .insertion " package_name ".toList,
  .text ("\"\nversion = \"0.1.0\"\nedition = \"2021\"" ++ "\n" ++ "description = \"" ++
    "Typed client for ").toList,
  .insertion " api_title ".toList,
  .text " ".toList,
  .insertion " api_version ".toList,
  .text ("\"" ++ "\n" ++ manifestTail).toList]

/-- The template of the manifest is cut so. -/
theorem pieces?_manifest : pieces? manifest.toList = some manifestPieces := by
  -- both sides are spelled out first, so the cutting itself only ever compares characters
  apply pieces?_of_ofList
  case hchars =>
    unfold manifest
    repeat' apply ofLines_cons_eq_ofList rfl
    exact ofLines_nil_eq_ofList
  case hpieces =>
    unfold manifestPieces manifestTail
    repeat' first
      | apply cons_piece_eq
      | apply append_eq_ofList
      | apply ofLines_cons_eq_ofList
      | rfl
  case hcut => decide +kernel

/-- **The manifest** has the values in it as they are. -/
theorem render?_manifest (values : Values) :
    render? values.context manifest =
      some (manifestText values.packageName values.title values.version) := by
  have hname : insertion? values.context " package_name ".toList = some values.packageName := rfl
  have htitle : insertion? values.context " api_title ".toList = some values.title := rfl
  have hversion : insertion? values.context " api_version ".toList = some values.version := rfl
  have hinsertions : insertions manifestPieces =
      [" package_name ".toList, " api_title ".toList, " api_version ".toList] := rfl
  have hvalues : ∀ inside ∈ insertions manifestPieces,
      (insertion? values.context inside).isSome = true := by
    rw [hinsertions, List.forall_mem_cons, List.forall_mem_cons, List.forall_mem_singleton, hname,
      htitle, hversion]
    exact ⟨rfl, rfl, rfl⟩
  rw [render?_of_pieces pieces?_manifest hvalues, Option.some_inj]
  unfold manifestPieces manifestText manifestHead descriptionLine summary
  generalize manifestTail = tail
  simp only [List.map_cons, List.map_nil, shown, pieceText?, hname, htitle, hversion,
    Option.getD_some, String.ofList_toList, String.join_cons, String.join_nil,
    String.append_assoc, String.append_empty]

/-! ## The root of the library -/

/-- The comment at the beginning of the library's root. -/
def commentLine (title version : String) : String := "//! " ++ summary title version ++ "."

/-- The library's root between its comment and the one on the address. -/
def libraryModules : String := ofLines [
  "",
  "pub mod client;",
  "pub mod error;",
  "pub mod models;",
  "pub mod transport;",
  "",
  "#[cfg(test)]",
  "mod mock;",
  "#[cfg(test)]",
  "mod sdk_test;",
  ""]

/-- The comment on the address. -/
def addressComment : String := "/// Server URL declared by the API document."

/-- The line of the library's root that declares the address, given as a text literal. -/
def addressLine (literal : String) : String := "pub const BASE_URL: &str = " ++ literal ++ ";"

/-- The library's root behind the address. -/
def libraryExports : String := ofLines [
  "",
  "pub use client::ApiClient;",
  "pub use error::Error;",
  "pub use transport::\x7bClient, HttpTransport, MockTransport, Request, Response\x7d;"]

/-- The root of a library. -/
def libraryText (title version literal : String) : String :=
  commentLine title version ++ "\n" ++ libraryModules ++ addressComment ++ "\n" ++
    addressLine literal ++ "\n" ++ libraryExports

/-- What the template of the library's root is cut into. -/
def libraryPieces : List Piece := [
  .text ("//! " ++ "Typed client for ").toList,
  .insertion " api_title ".toList,
  .text " ".toList,
  .insertion " api_version ".toList,
  .text ("." ++ "\n" ++ libraryModules ++ addressComment ++ "\n" ++
    "pub const BASE_URL: &str = " ++ "\"").toList,
  .insertion " base_url_literal ".toList,
  .text ("\"" ++ ";" ++ "\n" ++ libraryExports).toList]

/-- The template of the library's root is cut so. -/
theorem pieces?_libraryRoot : pieces? libraryRoot.toList = some libraryPieces := by
  apply pieces?_of_ofList
  case hchars =>
    unfold libraryRoot
    repeat' apply ofLines_cons_eq_ofList rfl
    exact ofLines_nil_eq_ofList
  case hpieces =>
    unfold libraryPieces libraryModules addressComment libraryExports
    repeat' first
      | apply cons_piece_eq
      | apply append_eq_ofList
      | apply ofLines_cons_eq_ofList
      | rfl
  case hcut => decide +kernel

/-- **The root of the library** has the values in it as they are. -/
theorem render?_libraryRoot (values : Values) :
    render? values.context libraryRoot =
      some (libraryText values.title values.version ("\"" ++ values.baseUrlLiteral ++ "\"")) := by
  have htitle : insertion? values.context " api_title ".toList = some values.title := rfl
  have hversion : insertion? values.context " api_version ".toList = some values.version := rfl
  have hliteral : insertion? values.context " base_url_literal ".toList =
      some values.baseUrlLiteral := rfl
  have hinsertions : insertions libraryPieces =
      [" api_title ".toList, " api_version ".toList, " base_url_literal ".toList] := rfl
  have hvalues : ∀ inside ∈ insertions libraryPieces,
      (insertion? values.context inside).isSome = true := by
    rw [hinsertions, List.forall_mem_cons, List.forall_mem_cons, List.forall_mem_singleton, htitle,
      hversion, hliteral]
    exact ⟨rfl, rfl, rfl⟩
  rw [render?_of_pieces pieces?_libraryRoot hvalues, Option.some_inj]
  unfold libraryPieces libraryText commentLine addressLine summary
  generalize libraryModules = modules, libraryExports = exports, addressComment = comment
  simp only [List.map_cons, List.map_nil, shown, pieceText?, htitle, hversion, hliteral,
    Option.getD_some, String.ofList_toList, String.join_cons, String.join_nil,
    String.append_assoc, String.append_empty]

/-! ## The page about the crate -/

/-- What the page about the crate asks for. -/
theorem insertions_readme :
    (pieces? readme.toList).map insertions =
      some [" package_name ".toList, " api_title ".toList, " api_version ".toList,
        " package_name | replace(from=\"-\", to=\"_\") ".toList,
        " package_name | replace(from=\"-\", to=\"_\") ".toList, " base_url ".toList] := by
  apply eq_of_ofList fun cs => (pieces? cs).map insertions
  case hchars =>
    unfold readme
    repeat' apply ofLines_cons_eq_ofList rfl
    exact ofLines_nil_eq_ofList
  case hresult => decide +kernel

/-- **The page about the crate** can be rendered with any values. -/
theorem exists_render?_readme (values : Values) :
    ∃ text, render? values.context readme = some text := by
  obtain ⟨pieces, hpieces, hinsertions⟩ := Option.map_eq_some_iff.1 insertions_readme
  refine ⟨_, render?_of_pieces hpieces ?_⟩
  rw [hinsertions]
  simp only [List.forall_mem_cons, List.not_mem_nil, false_implies, implies_true, and_true]
  exact ⟨rfl, rfl, rfl, rfl, rfl, rfl⟩

/-! ## The static files -/

/-- The templates are in order already. -/
theorem sortEntries_embedded : sortEntries embedded = embedded := by
  have hle : ∀ (a b : String × String), a.1 < b.1 → entryLe a b = true := by
    intro a b h
    simp [entryLe, h]
  have hmanifest := hle ("Cargo.toml.jinja2", manifest) ("README.md.jinja2", readme) (by decide)
  have hreadme := hle ("README.md.jinja2", readme) ("src/error.rs", errorModule) (by decide)
  have herror := hle ("src/error.rs", errorModule) ("src/lib.rs.jinja2", libraryRoot) (by decide)
  have hroot := hle ("src/lib.rs.jinja2", libraryRoot) ("src/transport.rs", transportModule)
    (by decide)
  simp only [sortEntries, embedded, List.foldr_cons, List.foldr_nil, insertEntry, hmanifest,
    hreadme, herror, hroot, if_true]

/-- **The static files are always rendered.** -/
theorem renderSet?_embedded (values : Values) :
    ∃ page, renderSet? values embedded = some [
      ("Cargo.toml", manifestText values.packageName values.title values.version),
      ("README.md", page),
      ("src/error.rs", errorModule),
      ("src/lib.rs",
        libraryText values.title values.version ("\"" ++ values.baseUrlLiteral ++ "\"")),
      ("src/transport.rs", transportModule)] := by
  obtain ⟨page, hpage⟩ := exists_render?_readme values
  refine ⟨page, ?_⟩
  -- A template loses the ending of its path and is rendered; any other file is copied.
  have hrendered : ∀ path target template text,
      Text.dropEnd? ending.toList path.toList = some target →
      render? values.context template = some text →
      rendered? values.context (path, template) = some (String.ofList target, text) := by
    intro path target template text hpath htext
    simp [rendered?, hpath, htext]
  have hcopied : ∀ path text, Text.dropEnd? ending.toList path.toList = none →
      rendered? values.context (path, text) = some (path, text) := by
    intro path text hpath
    simp [rendered?, hpath]
  -- The set is sorted by path, so the five files come out in this order.
  unfold renderSet?
  rw [sortEntries_embedded, embedded, List.mapM_cons, List.mapM_cons, List.mapM_cons,
    List.mapM_cons, List.mapM_cons, List.mapM_nil,
    hrendered "Cargo.toml.jinja2" "Cargo.toml".toList manifest _ rfl (render?_manifest values),
    hrendered "README.md.jinja2" "README.md".toList readme page rfl hpage,
    hcopied "src/error.rs" errorModule rfl,
    hrendered "src/lib.rs.jinja2" "src/lib.rs".toList libraryRoot _ rfl (render?_libraryRoot values),
    hcopied "src/transport.rs" transportModule rfl]
  simp

end ClientForge.Template

namespace ClientForge.Sdk

open ClientForge.Template

/-- A crate has the generated files, and the static ones after them. -/
theorem generate_of_rendered {doc : Document} {config : Config} {address : String}
    {surface : Surface} {templates rendered : List (String × String)}
    (haddress : doc.baseUrl? = some address)
    (hsurface : Sdk.surface doc config.routes = .ok surface)
    (hrendered : renderSet? (templateValues doc config address) templates = some rendered) :
    generate doc config templates =
      .ok ((FileSet.ofList (sources config surface)).insertAll rendered) := by
  unfold generate
  rw [haddress, hsurface]
  dsimp only
  rw [hrendered]

/-- **The static files of a crate.**  A document with an address, whose endpoints can be extracted,
gives a crate; its manifest and the root of its library have the values of the document in them, and
the sending of requests is there as it is. -/
theorem generate_embedded {doc : Document} {config : Config} {address : String} {surface : Surface}
    (haddress : doc.baseUrl? = some address)
    (hsurface : Sdk.surface doc config.routes = .ok surface) :
    ∃ files, generate doc config Template.embedded = .ok files ∧
      files.get? "Cargo.toml" =
        some (manifestText config.packageName doc.title doc.version) ∧
      files.get? "src/lib.rs" =
        some (libraryText doc.title doc.version (Code.textLiteral address)) ∧
      files.get? "src/transport.rs" = some transportModule := by
  obtain ⟨page, hrendered⟩ := renderSet?_embedded (templateValues doc config address)
  refine ⟨_, generate_of_rendered haddress hsurface hrendered, ?_⟩
  have hpaths : ["Cargo.toml", "README.md", "src/error.rs", "src/lib.rs",
      "src/transport.rs"].Pairwise fun first second => Path.same first second = false := by
    decide
  exact ⟨FileSet.get?_insertAll hpaths (.head _),
    FileSet.get?_insertAll hpaths (.tail _ (.tail _ (.tail _ (.head _)))),
    FileSet.get?_insertAll hpaths (.tail _ (.tail _ (.tail _ (.tail _ (.head _)))))⟩

end ClientForge.Sdk
