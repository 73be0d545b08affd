/-
  What the static files of a crate say about the API, read in their own languages.

  The title and the version of an API are any texts that a document gives, and they are put into two of
  the static files as they are: into a text of the manifest, which is in TOML, and into the comment at
  the beginning of the library's root.  The address of the server is put into the root too, and is
  escaped for it.

  What a file says is what a reader of its language finds in it, so there is a reader for each of the
  three: the description in the manifest (`descriptionOf?`), the opening comment (`openingComment?`) and
  the declared address (`declaredAddress?`).

  * **The manifest** describes the API exactly if neither text has a character that is special in a text
    of TOML (`descriptionOf?_manifestText`).  That such a character spoils it is not seen character by
    character, since what is read after it may be anything.  It is seen by length: an escape is written
    longer than what it stands for, and a text that ends early is shorter too, so what is read can only
    have the right length if every character stands for itself (`length_le_of_lineText`).
  * **The comment** holds both exactly if neither has a line end, a carriage return counting as one
    (`openingComment?_libraryText`).
  * **The address** is always read back as it is (`declaredAddress?_libraryText`).

  The value may also bring lines of its own into a file, and the readers look for the last line that
  begins as theirs does; behind that line nothing depends on the document.
-/
import Mathlib.Data.List.TakeWhile
import ClientForge.Proofs.Code.TextLiteral
import ClientForge.Proofs.Template.Rendering
import ClientForge.Proofs.Text.Lines
import ClientForge.Toml.Text

namespace ClientForge

/-! ## Texts of TOML -/

namespace Toml

/-- What the characters say as one text between double quotes on one line. -/
def basicText? : List Char → Option String
  | '"' :: cs => match lineText '"' 0 cs with
    | some (found, []) => some (String.ofList found)
    | _ => none
  | _ => none

/-- Whether the character stands for itself between double quotes. -/
def IsPlain (c : Char) : Prop := isLineChar c = true ∧ c ≠ '"' ∧ c ≠ '\\'

/-- An escape has at least one character. -/
theorem escape?_pos {cs : List Char} {c : Char} {length : Nat}
    (h : escape? cs = some (c, length)) : 1 ≤ length := by
  unfold escape? at h
  split at h
  · obtain ⟨_, -, heq⟩ := Option.map_eq_some_iff.1 h
    cases heq
    decide
  · obtain ⟨_, -, heq⟩ := Option.map_eq_some_iff.1 h
    cases heq
    decide
  all_goals cases h
  all_goals decide

/-- **What is read is no longer than what is written,** the closing mark left out. -/
theorem length_le_of_lineText {mark : Char} {skip : Nat} {cs text rest : List Char}
    (h : lineText mark skip cs = some (text, rest)) :
    text.length + rest.length + skip + 1 ≤ cs.length := by
  -- The induction follows the characters; a pending skip consumes one of them.
  induction cs generalizing skip text with
  | nil => cases skip <;> cases h
  | cons c cs ih => cases skip with
    | succ skip =>
      have := ih h
      rw [List.length_cons]
      omega
    | zero =>
      -- A character that was put counts once, whatever is skipped after it.
      have hput : ∀ {d : Char} {skip : Nat}, (lineText mark skip cs).put d = some (text, rest) →
          text.length + rest.length + skip ≤ cs.length := by
        intro d skip hput
        obtain ⟨⟨found, rest'⟩, hread, heq⟩ := Option.map_eq_some_iff.1 hput
        cases heq
        have := ih hread
        rw [List.length_cons]
        omega
      rw [lineText] at h
      rw [List.length_cons]
      split at h
      · cases h
        simp
      · split at h
        · split at h
          · have := hput h
            omega
          · cases h
        · split at h
          · have := hput h
            omega
          · cases h

/-- **A text says itself exactly if all of its characters stand for themselves.** -/
theorem lineText_self_iff {cs : List Char} :
    lineText '"' 0 (cs ++ ['"']) = some (cs, []) ↔ ∀ c ∈ cs, IsPlain c := by
  induction cs with
  | nil => simp [lineText]
  | cons c cs ih =>
    rw [List.cons_append, lineText, List.forall_mem_cons, ← ih]
    by_cases hquote : c = '"'
    · subst hquote
      simp [IsPlain]
    · by_cases hslash : c = '\\'
      · subst hslash
        -- what an escape stands for is shorter than the escape, and what follows makes up for nothing
        have hshort : ∀ {d : Char} {length : Nat}, escape? (cs ++ ['"']) = some (d, length) →
            (lineText '"' length (cs ++ ['"'])).put d ≠ some ('\\' :: cs, []) := by
          intro d length hescape hput
          obtain ⟨⟨found, rest⟩, hread, heq⟩ := Option.map_eq_some_iff.1 hput
          cases heq
          have hle := length_le_of_lineText hread
          have hpos := escape?_pos hescape
          rw [List.length_append, List.length_singleton] at hle
          omega
        cases hescape : escape? (cs ++ ['"']) with
        | none => simp [IsPlain]
        | some found => simpa [IsPlain] using hshort hescape
      · by_cases hline : isLineChar c = true
        · simp [IsPlain, hquote, hslash, hline, Read.put]
        · simp [IsPlain, hquote, hslash, hline]

/-- A text between its marks says itself exactly if all of its characters stand for themselves. -/
theorem basicText?_self_iff {text : String} :
    basicText? ('"' :: text.toList ++ ['"']) = some text ↔ ∀ c ∈ text.toList, IsPlain c := by
  rw [← lineText_self_iff]
  constructor
  · intro h
    simp only [List.cons_append, basicText?] at h
    split at h
    · rename_i found hread
      rw [hread, ← Option.some_inj.1 h, String.toList_ofList]
    · cases h
  · intro h
    simp only [List.cons_append, basicText?, h, String.ofList_toList]

/-- What is read is shorter by the two marks. -/
theorem length_of_basicText? {cs : List Char} {text : String} (h : basicText? cs = some text) :
    text.length + 2 ≤ cs.length := by
  unfold basicText? at h
  split at h
  · split at h
    · rename_i found hread
      have hle := length_le_of_lineText hread
      cases h
      simp at hle ⊢
      omega
    · cases h
  · cases h

end Toml

/-! ## The comment at the beginning of a source -/

namespace Code

/-- Whether the character stays on the line it is put on. -/
def StaysOnLine (c : Char) : Prop := c ≠ '\n' ∧ c ≠ '\r'

/-- The comment that a source begins with: what is behind its mark on the first line.  A comment
may not have a carriage return in it. -/
def openingComment? (source : String) : Option String :=
  match unifiedLines source.toList with
  | '/' :: '/' :: '!' :: cs =>
    let line := cs.takeWhile (· != '\n')
    if '\r' ∈ line then none else some (String.ofList line)
  | _ => none

/-- Where no carriage return is, unifying line ends changes nothing. -/
theorem unifiedLines_append {line : List Char} (hline : '\r' ∉ line) (cs : List Char) :
    unifiedLines (line ++ cs) = line ++ unifiedLines cs := by
  induction line with
  | nil => rfl
  | cons c line ih =>
    rw [List.mem_cons, not_or] at hline
    rw [List.cons_append, unifiedLines, if_neg (by simp [Ne.symm hline.1]), ih hline.2,
      List.cons_append]

/-- **A text put into the comment stays in it exactly if it has no line end.** -/
theorem openingComment?_eq_some_iff {source text rest : String}
    (hsource : source = "//!" ++ text ++ "\n" ++ rest) :
    openingComment? source = some text ↔ ∀ c ∈ text.toList, StaysOnLine c := by
  have hchars : source.toList =
      '/' :: '/' :: '!' :: (text.toList ++ '\n' :: rest.toList) := by
    rw [hsource]
    simp
  constructor
  · intro h
    unfold openingComment? at h
    split at h
    · dsimp only at h
      split at h
      · cases h
      · -- The line is what stands before the first break, and it was refused if it held a return.
        rename_i cs _ hreturn
        have hline : cs.takeWhile (· != '\n') = text.toList := by
          rw [← Option.some_inj.1 h, String.toList_ofList]
        intro c hc
        rw [hline] at hreturn
        rw [← hline] at hc
        exact ⟨by simpa using List.mem_takeWhile_imp hc, fun heq => hreturn (hline ▸ heq ▸ hc)⟩
    · cases h
  · intro hstays
    have hreturn : '\r' ∉ text.toList := fun hmem => (hstays _ hmem).2 rfl
    -- Without a return in the text, the unification of the lines leaves the first one alone.
    have hlines : unifiedLines source.toList =
        '/' :: '/' :: '!' :: (text.toList ++ '\n' :: unifiedLines rest.toList) := by
      have hmark : '\r' ∉ '/' :: '/' :: '!' :: (text.toList ++ ['\n']) := by simp [hreturn]
      have := unifiedLines_append hmark rest.toList
      rw [hchars]
      simpa using this
    have hline : (text.toList ++ '\n' :: unifiedLines rest.toList).takeWhile (· != '\n') =
        text.toList := by
      rw [List.takeWhile_append_of_pos fun c hc => by simpa using (hstays c hc).1]
      simp
    simp only [openingComment?, hlines, hline, if_neg hreturn, String.ofList_toList]

/-- A text literal is on one line. -/
theorem newline_not_mem_textLiteral (text : String) : '\n' ∉ (textLiteral text).toList := by
  simp [textLiteral, escapedText, not_mem_escapedChar '\n' (by decide)]

end Code

/-! ## The static files -/

namespace Template

/-- What a manifest says the package is: the text on the last line that gives a description. -/
def descriptionOf? (manifest : String) : Option String :=
  (Text.lastLine? "description = ".toList manifest.toList).bind Toml.basicText?

/-- The address that the root of a library declares: the text of the literal on the last line that
gives one. -/
def declaredAddress? (source : String) : Option String :=
  (Text.lastLine? "pub const BASE_URL: &str = ".toList source.toList).bind fun cs =>
    (Text.dropEnd? [';'] cs).bind fun literal => Code.readLiteral? (String.ofList literal)

/-- **A manifest describes the API** exactly if the title and the version stand for themselves in a
text of TOML. -/
theorem descriptionOf?_manifestText (packageName title version : String) :
    descriptionOf? (manifestText packageName title version) = some (summary title version) ↔
      (∀ c ∈ title.toList, Toml.IsPlain c) ∧ ∀ c ∈ version.toList, Toml.IsPlain c := by
  have hchars : (manifestText packageName title version).toList =
      (manifestHead packageName).toList ++ '\n' :: ("description = ".toList ++
        ('"' :: (summary title version).toList ++ ['"']) ++ '\n' :: manifestTail.toList) := by
    unfold manifestText descriptionLine
    generalize manifestHead packageName = head, summary title version = text, manifestTail = tail
    simp
  have hafter : (Text.split '\n' manifestTail.toList).filterMap
      (Text.behind? "description = ".toList) = [] := by
    apply eq_of_ofList fun cs =>
      (Text.split '\n' cs).filterMap (Text.behind? "description = ".toList)
    case hchars =>
      unfold manifestTail
      repeat' apply ofLines_cons_eq_ofList rfl
      exact ofLines_nil_eq_ofList
    case hresult => rfl
  have hwords : ∀ c ∈ "Typed client for ".toList, Toml.IsPlain c := by
    simp [Toml.IsPlain, Toml.isLineChar]
  obtain ⟨found, hfound, hcases⟩ := Text.lastLine?_eq (by simp) hafter
    (manifestHead packageName).toList
  rw [← forall_mem_summary hwords, descriptionOf?, hchars, hfound, Option.bind_some]
  rcases hcases with ⟨-, rfl⟩ | ⟨hline, hshort⟩
  · exact Toml.basicText?_self_iff
  · -- the text has a line end, so what is found is too short to say it
    constructor
    · intro h
      have hlong := Toml.length_of_basicText? h
      rw [List.length_append, List.length_cons, List.length_singleton] at hshort
      rw [← String.length_toList] at hlong
      omega
    · intro hplain
      have hfeed : '\n' ∈ (summary title version).toList := by simpa using hline
      exact absurd (hplain _ hfeed).1 (by decide)

/-- **The comment holds the title and the version** exactly if neither has a line end. -/
theorem openingComment?_libraryText (title version literal : String) :
    Code.openingComment? (libraryText title version literal) =
        some (" " ++ summary title version ++ ".") ↔
      (∀ c ∈ title.toList, Code.StaysOnLine c) ∧ ∀ c ∈ version.toList, Code.StaysOnLine c := by
  have hsource : libraryText title version literal =
      "//!" ++ (" " ++ summary title version ++ ".") ++ "\n" ++
        (libraryModules ++ addressComment ++ "\n" ++ addressLine literal ++ "\n" ++
          libraryExports) := by
    have hmark : "//! " = "//!" ++ " " := rfl
    unfold libraryText commentLine
    simp only [hmark, String.append_assoc]
  have hwords : ∀ c ∈ "Typed client for ".toList, Code.StaysOnLine c := by
    simp [Code.StaysOnLine]
  have hspace : ∀ c ∈ " ".toList, Code.StaysOnLine c := by
    simp [Code.StaysOnLine]
  have hpoint : ∀ c ∈ ".".toList, Code.StaysOnLine c := by
    simp [Code.StaysOnLine]
  rw [Code.openingComment?_eq_some_iff hsource, ← forall_mem_summary hwords, String.toList_append,
    String.toList_append, List.forall_mem_append, List.forall_mem_append, and_iff_right hspace,
    and_iff_left hpoint]

/-- **The root of a library declares the address,** whatever the title, the version and the address
are. -/
theorem declaredAddress?_libraryText (title version address : String) :
    declaredAddress? (libraryText title version (Code.textLiteral address)) = some address := by
  -- The text is cut at the constant's line: what stands before it, the line itself, and the exports
  -- behind it.
  have hchars : (libraryText title version (Code.textLiteral address)).toList =
      (commentLine title version ++ "\n" ++ libraryModules ++ addressComment).toList ++
        '\n' :: ("pub const BASE_URL: &str = ".toList ++
        ((Code.textLiteral address).toList ++ [';']) ++ '\n' :: libraryExports.toList) := by
    unfold libraryText addressLine
    generalize Code.textLiteral address = literal, libraryExports = exports,
      commentLine title version ++ "\n" ++ libraryModules ++ addressComment = before
    simp
  -- No line of the exports begins like the constant, so the constant's line is the last.
  have hafter : (Text.split '\n' libraryExports.toList).filterMap
      (Text.behind? "pub const BASE_URL: &str = ".toList) = [] := by
    apply eq_of_ofList fun cs =>
      (Text.split '\n' cs).filterMap (Text.behind? "pub const BASE_URL: &str = ".toList)
    case hchars =>
      unfold libraryExports
      repeat' apply ofLines_cons_eq_ofList rfl
      exact ofLines_nil_eq_ofList
    case hresult => rfl
  have hline : '\n' ∉ (Code.textLiteral address).toList ++ [';'] := by
    simp [Code.newline_not_mem_textLiteral]
  obtain ⟨found, hfound, hcases⟩ := Text.lastLine?_eq (by simp) hafter
    (commentLine title version ++ "\n" ++ libraryModules ++ addressComment).toList
  rw [declaredAddress?, hchars, hfound, Option.bind_some]
  rcases hcases with ⟨-, hwhole⟩ | ⟨hmem, -⟩
  · -- Cut of its semicolon, the line holds the literal, which reads back as the address.
    have hcut : Text.dropEnd? [';'] ((Code.textLiteral address).toList ++ [';']) =
        some (Code.textLiteral address).toList := by
      simp [Text.dropEnd?]
    rw [hwhole, hcut, Option.bind_some, String.ofList_toList, Code.readLiteral?_textLiteral]
  · exact absurd hmem hline

end Template

/-- **What the static files say about an API.**  The manifest has the title and the version in the
text that describes the package exactly if every character of both stands for itself in a text of
TOML, and the comment of the library's root holds both exactly if neither has a line end; the
declared address is the one of the first server, whatever the texts are. -/
theorem Sdk.metadata_contained_iff {doc : Document} {config : Config} {address : String}
    {surface : Surface} (haddress : doc.baseUrl? = some address)
    (hsurface : Sdk.surface doc config.routes = .ok surface) :
    ∃ files manifest root,
      generate doc config Template.embedded = .ok files ∧
      files.get? "Cargo.toml" = some manifest ∧ files.get? "src/lib.rs" = some root ∧
      (Template.descriptionOf? manifest =
          some ("Typed client for " ++ doc.title ++ " " ++ doc.version) ↔
        (∀ c ∈ doc.title.toList, Toml.IsPlain c) ∧ ∀ c ∈ doc.version.toList, Toml.IsPlain c) ∧
      (Code.openingComment? root =
          some (" Typed client for " ++ doc.title ++ " " ++ doc.version ++ ".") ↔
        (∀ c ∈ doc.title.toList, Code.StaysOnLine c) ∧
          ∀ c ∈ doc.version.toList, Code.StaysOnLine c) ∧
      Template.declaredAddress? root = some address := by
  obtain ⟨files, hfiles, hmanifest, hroot, -⟩ := generate_embedded haddress hsurface
  -- The comment is the summary between a blank and a stop.
  have hcomment : " Typed client for " ++ doc.title ++ " " ++ doc.version ++ "." =
      " " ++ Template.summary doc.title doc.version ++ "." := by
    have hmark : " Typed client for " = " " ++ "Typed client for " := rfl
    unfold Template.summary
    simp only [hmark, String.append_assoc]
  refine ⟨files, _, _, hfiles, hmanifest, hroot, ?_, ?_, ?_⟩
  · exact Template.descriptionOf?_manifestText config.packageName doc.title doc.version
  · rw [hcomment]
    exact Template.openingComment?_libraryText doc.title doc.version (Code.textLiteral address)
  · exact Template.declaredAddress?_libraryText doc.title doc.version address

/-- An API with a quote in its title and a line end in its version. -/
def marksDocument : Document where
  info := some { title := some "The \"best\" API", version := some "1\n2" }
  servers := [{ url := "https://api.example.com" }]

/-- A quote in the title spoils the manifest, and a line end in the version the comment as well. -/
theorem Sdk.metadata_contained_iff_marks :
    marksDocument.baseUrl? = some "https://api.example.com" ∧
      ∃ surface, Sdk.surface marksDocument [] = .ok surface ∧
      ∃ files manifest root,
        generate marksDocument {} Template.embedded = .ok files ∧
        files.get? "Cargo.toml" = some manifest ∧ files.get? "src/lib.rs" = some root ∧
        Template.descriptionOf? manifest ≠ some "Typed client for The \"best\" API 1\n2" ∧
        Code.openingComment? root ≠ some " Typed client for The \"best\" API 1\n2." ∧
        Template.declaredAddress? root = some "https://api.example.com" := by
  have haddress : marksDocument.baseUrl? = some "https://api.example.com" := rfl
  obtain ⟨surface, hsurface⟩ : ∃ surface, Sdk.surface marksDocument [] = .ok surface := ⟨_, rfl⟩
  obtain ⟨files, manifest, root, hfiles, hmanifest, hroot, hdescription, hcomment, hdeclared⟩ :=
    @Sdk.metadata_contained_iff marksDocument {} _ _ haddress hsurface
  refine ⟨haddress, surface, hsurface, files, manifest, root, hfiles, hmanifest, hroot, ?_, ?_,
    hdeclared⟩
  · intro h
    exact ((hdescription.1 h).1 '"' (by simp [marksDocument, Document.title])).2.1 rfl
  · intro h
    exact ((hcomment.1 h).2 '\n' (by simp [marksDocument, Document.version])).1 rfl

end ClientForge
