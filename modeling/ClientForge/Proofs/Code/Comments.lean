/-
  Descriptions stay in their comments.

  A description is text from a document, and it may hold anything: line feeds, carriage returns,
  what looks like code.  It is printed line by line, each line behind a mark of its own, without
  the white space around the description and at the ends of its lines.  Two things are to be known.

  1. **Nothing is lost.**  What is read behind the marks of a comment is the description again,
     line by line, up to the white space just named (`read_comment`).  The lines of a text are what
     its line feeds separate, so the one subtle case is a carriage return in front of a line feed:
     it is white space at the end of a line, and the language drops it, which comes to the same
     (`map_trimEnd_split_unifiedLines`).
  2. **Nothing gets out.**  Every line of a comment has the mark (`hasMark_of_mem_rows_comment`), so
     whatever the description says, none of its lines is a line of code.

  For whole modules the second is stated against the same module without descriptions.
  `Commented text code blocks` is the relation between a text with comments and the text without
  them: line by line the one is the other, with the comment of each block between two lines, in
  their order.  It is an inductive relation over LINES and not over characters, because putting a
  comment between two characters of one line would not do.  The relation is kept by whatever puts
  texts together (`Commented.append`, `Commented.join`, `Commented.intercalate`), so it holds of a
  declaration because it holds of its parts, and of a module because it holds of its declarations
  (`Module.commented`).  What follows for one line of a text is that it is a line of the code or has
  the mark of a comment (`Commented.row_cases`).
-/
import ClientForge.Code.Printer
import ClientForge.Proofs.Code.TextLiteral
import ClientForge.Proofs.Text.Parts

namespace ClientForge

/-! ## Lines -/

namespace Text

/-- The lines of a text in which a line feed ends each. -/
def rows (cs : List Char) : List (List Char) := (split '\n' cs).dropLast

/-- A line feed ends a row, whatever stands behind it. -/
theorem rows_append_cons {row : List Char} (hrow : '\n' ∉ row) (cs : List Char) :
    rows (row ++ '\n' :: cs) = row :: rows cs := by
  rw [rows, split_append_cons, split_of_not_mem hrow, List.singleton_append,
    List.dropLast_cons_of_ne_nil (split_ne_nil '\n' cs), rows]

/-- Trimming at the end keeps a character as long as something is left behind it, or it is no white
space itself. -/
theorem trimEnd_cons (c : Char) (cs : List Char) :
    trimEnd (c :: cs) = if (trimEnd cs).isEmpty && isBlank c then [] else c :: trimEnd cs := by
  unfold trimEnd dropEndWhile
  rw [List.reverse_cons, List.dropWhile_append]
  cases hrest : cs.reverse.dropWhile isBlank with
  | nil => cases hc : isBlank c <;> simp [hc]
  | cons d ds => simp

/-- **A carriage return in front of a line feed is white space at the end of a line.** -/
theorem map_trimEnd_split_unifiedLines (cs : List Char) :
    (split '\n' (Code.unifiedLines cs)).map trimEnd = (split '\n' cs).map trimEnd := by
  induction cs with
  | nil => rfl
  | cons c cs ih =>
    rw [Code.unifiedLines]
    by_cases hreturn : (c == '\r' && cs.head? == some '\n') = true
    · -- dropped on the one side, the last character of an otherwise empty line on the other
      rw [if_pos hreturn, ih]
      rw [Bool.and_eq_true, beq_iff_eq, beq_iff_eq] at hreturn
      obtain ⟨rfl, hhead⟩ := hreturn
      obtain ⟨rest, rfl⟩ := List.head?_eq_some_iff.1 hhead
      have hblank : trimEnd ['\r'] = trimEnd [] := by decide
      have hfeed : split '\n' ('\n' :: rest) = [] :: split '\n' rest := by simp [split]
      have hboth : split '\n' ('\r' :: '\n' :: rest) = ['\r'] :: split '\n' rest := by
        simp [split]
      rw [hfeed, hboth, List.map_cons, List.map_cons, hblank]
    · rw [if_neg hreturn]
      by_cases hfeed : c = '\n'
      · rw [split, split, if_pos hfeed, if_pos hfeed, List.map_cons, List.map_cons, ih]
      · rw [split, split, if_neg hfeed, if_neg hfeed]
        -- both sides have a first line, and the character is put in front of it
        cases hunified : split '\n' (Code.unifiedLines cs) with
        | nil => exact absurd hunified (split_ne_nil _ _)
        | cons first others =>
          cases hplain : split '\n' cs with
          | nil => exact absurd hplain (split_ne_nil _ _)
          | cons first' others' =>
            rw [hunified, hplain, List.map_cons, List.map_cons, List.cons.injEq] at ih
            simp only [List.map_cons, trimEnd_cons, ih.1, ih.2]

end Text

namespace Code

/-! ## Reading a comment -/

/-- What is behind the mark of a comment on a line: indentation, three slashes and the space behind
them are taken away. -/
def behindMark? (row : List Char) : Option (List Char) :=
  match row.dropWhile (· == ' ') with
  | '/' :: '/' :: '/' :: ' ' :: cs => some cs
  | '/' :: '/' :: '/' :: cs => some cs
  | _ => none

/-- The lines that a description says: those of the text without the white space around it, each
without the white space at its end. -/
def describedLines (description : String) : List (List Char) :=
  (Text.split '\n' (unifiedLines (Text.trim description.toList))).map Text.trimEnd

/-- A line of a comment is its mark, with a space and the characters behind it unless these are
blank. -/
theorem toList_commentLine (cs : List Char) : (commentLine cs).toList =
    '/' :: '/' :: '/' :: if (Text.trimEnd cs).isEmpty then [] else ' ' :: Text.trimEnd cs := by
  unfold commentLine
  dsimp only
  split
  · simp
  · simp

/-- A line stays one line behind its mark. -/
theorem newline_not_mem_commentLine {cs : List Char} (hcs : '\n' ∉ cs) :
    '\n' ∉ (commentLine cs).toList := by
  have hkept : '\n' ∉ Text.trimEnd cs :=
    fun hmem => hcs ((Text.dropEndWhile_isPrefix _ cs).subset hmem)
  rw [toList_commentLine]
  split <;> simp [hkept]

/-- What is read behind the mark of a printed line is the line without the white space at its end.
-/
theorem behindMark?_line (level : Nat) (cs : List Char) :
    behindMark? ((indentation level).toList ++ (commentLine cs).toList) =
      some (Text.trimEnd cs) := by
  have hdrop (rest : List Char) :
      ((indentation level).toList ++ '/' :: rest).dropWhile (· == ' ') = '/' :: rest := by
    rw [indentation, String.toList_ofList, List.dropWhile_append_of_pos (by simp)]
    rfl
  rw [behindMark?, toList_commentLine, hdrop]
  cases hkept : Text.trimEnd cs with
  | nil => rfl
  | cons c kept => rfl

/-- Lines that are printed one after the other are the rows of the text, each behind its
indentation. -/
theorem rows_join_line (level : Nat) {lines : List String} (h : ∀ l ∈ lines, '\n' ∉ l.toList)
    (after : String) : Text.rows (String.join (lines.map (line level)) ++ after).toList =
      (lines.map fun l => (indentation level).toList ++ l.toList) ++ Text.rows after.toList := by
  have hindentation : '\n' ∉ (indentation level).toList := by simp [indentation]
  induction lines with
  | nil => simp
  | cons first rest ih =>
    rw [List.forall_mem_cons] at h
    have hrow : '\n' ∉ (indentation level).toList ++ first.toList :=
      fun hmem => (List.mem_append.1 hmem).elim hindentation h.1
    have hchars : (String.join ((first :: rest).map (line level)) ++ after).toList =
        ((indentation level).toList ++ first.toList) ++
          '\n' :: (String.join (rest.map (line level)) ++ after).toList := by
      simp [line]
    rw [hchars, Text.rows_append_cons hrow, ih h.2, List.map_cons, List.cons_append]

/-- The rows of a comment, and of whatever is printed behind it. -/
theorem rows_comment_append (level : Nat) (description after : String) :
    Text.rows (comment level description ++ after).toList =
      (Text.split '\n' (Text.trim description.toList)).map (fun cs =>
        (indentation level).toList ++ (commentLine cs).toList) ++ Text.rows after.toList := by
  have hlines : ∀ l ∈ commentLines description, '\n' ∉ l.toList := by
    intro l hl
    obtain ⟨cs, hcs, rfl⟩ := List.mem_map.1 hl
    exact newline_not_mem_commentLine fun hmem => (Text.mem_of_mem_split hcs hmem).2 rfl
  rw [comment, rows_join_line level hlines, commentLines, List.map_map]
  rfl

/-- The lines of a comment. -/
theorem rows_comment (level : Nat) (description : String) :
    Text.rows (comment level description).toList =
      (Text.split '\n' (Text.trim description.toList)).map fun cs =>
        (indentation level).toList ++ (commentLine cs).toList := by
  have hnone : Text.rows "".toList = [] := rfl
  have hrows := rows_comment_append level description ""
  rwa [String.append_empty, hnone, List.append_nil] at hrows

/-- **What is read behind the marks of a comment** is what the description says, line by line. -/
theorem read_comment (level : Nat) (description : String) :
    (Text.rows (comment level description).toList).map behindMark? =
      (describedLines description).map some := by
  rw [describedLines, Text.map_trimEnd_split_unifiedLines, rows_comment, List.map_map,
    List.map_map]
  exact List.map_congr_left fun cs _ => behindMark?_line level cs

/-- Whether a line has, behind an indentation, the three slashes that mark a comment. -/
def HasMark (row : List Char) : Prop :=
  ∃ level rest, row = (indentation level).toList ++ '/' :: '/' :: '/' :: rest

/-- **Every line of a comment has the mark.** -/
theorem hasMark_of_mem_rows_comment {level : Nat} {description : String} {row : List Char}
    (hrow : row ∈ Text.rows (comment level description).toList) : HasMark row := by
  rw [rows_comment] at hrow
  obtain ⟨cs, -, rfl⟩ := List.mem_map.1 hrow
  exact ⟨level, _, by rw [toList_commentLine]⟩

/-! ## Texts with comments -/

/-- `Commented text code blocks` — line by line the text is the code, with the comments of the
blocks between lines, each of them at its level. -/
inductive Commented : String → String → List (Nat × String) → Prop
  | nil : Commented "" "" []
  /-- A line of code. -/
  | code {text code : String} {blocks : List (Nat × String)} (row : String)
      (hrow : '\n' ∉ row.toList) (rest : Commented text code blocks) :
      Commented (row ++ "\n" ++ text) (row ++ "\n" ++ code) blocks
  /-- The comment of a description. -/
  | comment {text code : String} {blocks : List (Nat × String)} (level : Nat)
      (description : String) (rest : Commented text code blocks) :
      Commented (comment level description ++ text) code ((level, description) :: blocks)

namespace Commented

variable {α : Type} {text text' code code' : String} {blocks blocks' : List (Nat × String)}

/-- **Two commented texts one after the other:** their codes follow one another, and so do their
comments. -/
theorem append (h : Commented text code blocks) (h' : Commented text' code' blocks') :
    Commented (text ++ text') (code ++ code') (blocks ++ blocks') := by
  induction h with
  | nil => simpa using h'
  | code row hrow _ ih =>
    have hassoc (rest after : String) :
        row ++ "\n" ++ rest ++ after = row ++ "\n" ++ (rest ++ after) := String.append_assoc
    rw [hassoc, hassoc]
    exact .code row hrow ih
  | comment level description _ ih =>
    rw [String.append_assoc]
    exact .comment level description ih

/-- Whole lines without a comment. -/
theorem lines (chunk : String) : Commented (chunk ++ "\n") (chunk ++ "\n") [] := by
  have hparts : ∀ parts : List (List Char), parts ≠ [] → (∀ part ∈ parts, '\n' ∉ part) →
      Commented (String.ofList (Text.join ['\n'] parts) ++ "\n")
        (String.ofList (Text.join ['\n'] parts) ++ "\n") [] := by
    -- on the lines that the chunk is cut into: the last one gets its end from outside
    intro parts hne hpart
    induction parts with
    | nil => exact absurd rfl hne
    | cons first rest ih =>
      rw [List.forall_mem_cons] at hpart
      cases rest with
      | nil =>
        rw [Text.join]
        simpa using Commented.nil.code (String.ofList first) (by simpa using hpart.1)
      | cons next rest =>
        have := (ih (List.cons_ne_nil next rest) hpart.2).code (String.ofList first) (by simpa using hpart.1)
        simpa [Text.join, String.append_assoc] using this
  have := hparts (Text.split '\n' chunk.toList) (Text.split_ne_nil _ _)
    fun part hpart hmem => (Text.mem_of_mem_split hpart hmem).2 rfl
  rwa [Text.join_split, String.ofList_toList] at this

/-- Whatever ends in a line is whole lines. -/
theorem append_line (text : String) (level : Nat) (last : String) :
    Commented (text ++ Code.line level last) (text ++ Code.line level last) [] := by
  rw [Code.line, ← String.append_assoc]
  exact lines _

/-- A line behind a commented text is a line of its code. -/
theorem line (h : Commented text code blocks) (level : Nat) (last : String) :
    Commented (text ++ Code.line level last) (code ++ Code.line level last) blocks := by
  have hlast : Commented (Code.line level last) (Code.line level last) [] := lines _
  simpa using h.append hlast

/-- A comment for a text alone, or nothing without one. -/
theorem comment? (level : Nat) (doc : Option String) :
    Commented (Code.comment? level doc) "" (doc.toList.map fun text => (level, text)) := by
  cases doc with
  | none => exact .nil
  | some text => simpa [Code.comment?] using Commented.nil.comment level text

/-- A row of comments has no code. -/
theorem comments (level : Nat) (descriptions : List String) :
    Commented (String.join (descriptions.map (Code.comment level))) ""
      (descriptions.map fun text => (level, text)) := by
  induction descriptions with
  | nil => exact .nil
  | cons description rest ih => simpa using ih.comment level description

/-- What is put together of commented parts is commented with the blocks of all of them. -/
theorem join {f g : α → String} {b : α → List (Nat × String)} {xs : List α}
    (h : ∀ x ∈ xs, Commented (f x) (g x) (b x)) :
    Commented (String.join (xs.map f)) (String.join (xs.map g)) (xs.flatMap b) := by
  induction xs with
  | nil => exact .nil
  | cons x xs ih =>
    rw [List.forall_mem_cons] at h
    simpa using h.1.append (ih h.2)

/-- The same with a blank line between neighbours, which is a line of the code. -/
theorem intercalate {f g : α → String} {b : α → List (Nat × String)} {xs : List α}
    (h : ∀ x ∈ xs, Commented (f x) (g x) (b x)) :
    Commented ("\n".intercalate (xs.map f)) ("\n".intercalate (xs.map g)) (xs.flatMap b) := by
  induction xs with
  | nil => exact .nil
  | cons x xs ih =>
    rw [List.forall_mem_cons] at h
    cases xs with
    | nil => simpa using h.1
    | cons next xs =>
      have hbreak : Commented "\n" "\n" [] := lines ""
      simpa using (h.1.append hbreak).append (ih h.2)

/-- **A line of the text is a line of the code or has the mark of a comment.** -/
theorem row_cases (h : Commented text code blocks) {row : List Char}
    (hrow : row ∈ Text.rows text.toList) : row ∈ Text.rows code.toList ∨ HasMark row := by
  induction h with
  | nil => exact Or.inl hrow
  | code first hfirst _ ih =>
    have hrows (after : String) : Text.rows (first ++ "\n" ++ after).toList =
        first.toList :: Text.rows after.toList := by
      rw [← Text.rows_append_cons hfirst]
      simp
    rw [hrows] at hrow ⊢
    rcases List.mem_cons.1 hrow with rfl | hrow
    · exact Or.inl List.mem_cons_self
    · exact (ih hrow).imp_left (List.mem_cons_of_mem _)
  | comment level description _ ih =>
    rw [rows_comment_append, ← rows_comment] at hrow
    rcases List.mem_append.1 hrow with hrow | hrow
    · exact Or.inr (hasMark_of_mem_rows_comment hrow)
    · exact ih hrow

end Commented

/-! ## Items -/

/-- The member without its description. -/
def Member.undescribed (m : Member) : Member := { m with doc := none }

/-- The description of a member, where it is printed. -/
def Member.descriptions (m : Member) : List (Nat × String) := m.doc.toList.map fun text => (1, text)

/-- The item without its descriptions. -/
def Item.undescribed : Item → Item
  | typeAlias name type _ => typeAlias name type none
  | struct name _ members => struct name none (members.map Member.undescribed)
  | textType name _ => textType name none
  | constant name type value => constant name type value

/-- The descriptions of an item in the order in which they are printed. -/
def Item.descriptions : Item → List (Nat × String)
  | typeAlias _ _ doc => doc.toList.map fun text => (0, text)
  | struct _ doc members =>
    (doc.toList.map fun text => (0, text)) ++ members.flatMap Member.descriptions
  | textType _ doc => doc.toList.map fun text => (0, text)
  | constant .. => []

/-- A member of a record has its description in front of it. -/
theorem Member.commented (m : Member) :
    Commented m.toText m.undescribed.toText m.descriptions := by
  have htext : m.toText = comment? 1 m.doc ++ m.undescribed.toText := by
    simp [toText, undescribed, comment?, String.append_assoc]
  have hcode : Commented m.undescribed.toText m.undescribed.toText [] := .append_line _ 1 _
  rw [htext]
  simpa [descriptions] using (Commented.comment? 1 m.doc).append hcode

/-- **An item is its code with the descriptions in front of what they describe.** -/
theorem Item.commented (i : Item) : Commented i.toText i.undescribed.toText i.descriptions := by
  cases i with
  | typeAlias name type doc =>
    exact (Commented.comment? 0 doc).line 0 _
  | struct name doc members =>
    have hmembers : Commented (String.join (members.map Member.toText))
        (String.join ((members.map Member.undescribed).map Member.toText))
        (members.flatMap Member.descriptions) := by
      rw [List.map_map]
      exact .join fun m _ => m.commented
    have hhead := (((Commented.comment? 0 doc).line 0 structDerives).line 0 "#[serde(default)]").line
      0 ("pub struct " ++ name ++ " \x7b")
    exact (hhead.append hmembers).line 0 _
  | textType name doc =>
    have htext : (textType name doc).toText = comment? 0 doc ++ (textType name none).toText := by
      simp [toText, comment?, String.append_assoc]
    have hcode : Commented (textType name none).toText (textType name none).toText [] :=
      .append_line _ 0 _
    rw [htext]
    simpa [descriptions, undescribed] using (Commented.comment? 0 doc).append hcode
  | constant name type value => exact .lines _

/-! ## Declarations -/

/-- Some of the texts of a function's comment are descriptions; the function that has only the
others is its code. -/
theorem Function.commented_declarationAt (level : Nat) (f : Function) {described own : List String}
    (hdoc : f.doc = described ++ own) :
    Commented (f.declarationAt level) (declarationAt level { f with doc := own })
      (described.map fun text => (level, text)) := by
  have htext : f.declarationAt level =
      String.join (described.map (comment level)) ++ declarationAt level { f with doc := own } := by
    simp [declarationAt, header, hdoc, signature, String.append_assoc]
  have hcode : Commented (declarationAt level { f with doc := own })
      (declarationAt level { f with doc := own }) [] := .append_line _ level _
  rw [htext]
  simpa using (Commented.comments level described).append hcode

variable {α : Type}

/-- An interface has its own comment first, and its methods bring their blocks with them in order.
-/
theorem Decl.commented_interface (name : String) (doc : Option String) {f g : α → Function}
    {b : α → List (Nat × String)} {xs : List α}
    (h : ∀ x ∈ xs, Commented ((f x).declarationAt 1) ((g x).declarationAt 1) (b x)) :
    Commented (interface name doc (xs.map f)).toText (interface name doc (xs.map g)).toText
      (xs.flatMap b) := by
  have hmethods : Commented ("\n".intercalate ((xs.map f).map (Function.declarationAt 1)))
      ("\n".intercalate ((xs.map g).map (Function.declarationAt 1))) (xs.flatMap b) := by
    rw [List.map_map, List.map_map]
    exact .intercalate h
  have hhead := Commented.append_line (comment? 0 doc) 0 ("pub trait " ++ name ++ " \x7b")
  exact (hhead.append hmethods).line 0 _

/-- Lines with a blank one behind them are code and nothing else. -/
theorem separated_commented (lines : List String) :
    Commented (separated lines) (separated lines) [] := by
  unfold separated
  split
  · exact .nil
  · exact .lines _

/-- A module is its code with descriptions if its declarations are. -/
theorem Module.commented (m : Module) {decls : List Decl} {blocks : List (Nat × String)}
    (h : Commented ("\n".intercalate (m.decls.map Decl.toText))
      ("\n".intercalate (decls.map Decl.toText)) blocks) :
    Commented m.toText { m with decls := decls : Module }.toText blocks := by
  have hdoc := separated_commented (m.doc.map moduleCommentLine)
  have hattributes := separated_commented (m.attributes.map fun a => line 0 ("#![" ++ a ++ "]"))
  have huses := separated_commented (m.uses.map fun path => line 0 ("use " ++ path ++ ";"))
  exact ((hdoc.append hattributes).append huses).append h

end Code

end ClientForge
