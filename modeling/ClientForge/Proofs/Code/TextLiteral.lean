/-
  What a text literal says.

  Reading is that of the language.  First every carriage return with a line feed behind it is
  dropped (`unifiedLines`), then the characters between the quotes are read one after the other
  (`readFrom`): a backslash begins an escape, of which there are short ones, two with hexadecimal
  digits, and the one at the end of a line, which drops the white space in front of the next; a
  carriage return that is left is refused, and the first quote that no escape has taken ends the
  literal.  A literal says a text if it is read to its very end (`readLiteral?`).

  Two ways to write a literal are held against it.

  1. **Everything escaped** — with backslashes, quotes, line feeds, carriage returns and tabs escaped
     a literal says its text, whatever the text is (`readLiteral?_textLiteral`).  A character is
     written as an escape or as itself, and there is one lemma for that (`escapedChar_cases`) from
     which reading it back and its having no line end both follow.
  2. **Only quotes escaped** — such a literal says its text exactly if there is neither a backslash
     nor a carriage return in it (`readLiteral?_quotesEscaped_iff`).

  The crux is the second one in the direction from the reading to the text: it has to be shown that
  NO backslash can survive, and escapes are many and of different lengths.  Counting does it.  Every
  escape is written longer than what it stands for, so what is read is shorter than what is written
  by at least the number of special characters (`length_le_of_readFrom`), and of a literal with only
  quotes escaped this leaves no room for a backslash.  A carriage return that the language drops
  makes the reading shorter still.
-/
import ClientForge.Code.Literal
import ClientForge.Json.Reader
import ClientForge.Text.Split

namespace ClientForge.Code

/-! ## Reading -/

/-- Every line ends in a line feed. -/
def unifiedLines : List Char → List Char
  | [] => []
  | c :: cs =>
    if c == '\r' && cs.head? == some '\n' then unifiedLines cs else c :: unifiedLines cs

/-- The character that a short escape stands for. -/
def shortEscape? (c : Char) : Option Char :=
  match c with
  | 'n' => some '\n'
  | 'r' => some '\r'
  | 't' => some '\t'
  | '\\' => some '\\'
  | '0' => some '\x00'
  | '\x27' => some '\x27'
  | '"' => some '"'
  | _ => none

/-- The character of an escape with two hexadecimal digits, which is an ASCII one. -/
def asciiEscape? : List Char → Option Char
  | a :: b :: _ => do
    let high ← Json.hexValue? a
    let low ← Json.hexValue? b
    if high < 8 then some (Char.ofNat (16 * high + low)) else none
  | _ => none

/-- The character of an escape with a code point in braces, and how many characters it takes: up to
six hexadecimal digits, with underscores behind the first. -/
def unicodeEscape? : List Char → Option (Char × Nat)
  | '\x7b' :: cs => do
    let inside := cs.takeWhile (· != '\x7d')
    let digits ← (inside.filter (· != '_')).mapM Json.hexValue?
    let value := digits.foldl (fun value digit => 16 * value + digit) 0
    if inside.length < cs.length && inside.head? != some '_' && !digits.isEmpty &&
        digits.length ≤ 6 && decide value.isValidChar then
      some (Char.ofNat value, inside.length + 2)
    else none
  | _ => none

/-- The characters skipped at the beginning of a line that continues the one before. -/
def isContinued (c : Char) : Bool := c == ' ' || c == '\t' || c == '\n' || c == '\r'

/-- What the escape behind a backslash stands for, and how many characters it takes. -/
def escape? : List Char → Option (List Char × Nat)
  | [] => none
  | c :: cs =>
    match shortEscape? c with
    | some meaning => some ([meaning], 1)
    | none =>
      if c == 'x' then (asciiEscape? cs).map fun meaning => ([meaning], 3)
      else if c == 'u' then (unicodeEscape? cs).map fun (meaning, used) => ([meaning], used + 1)
      else if c == '\n' then some ([], (cs.takeWhile isContinued).length + 1)
      else none

/-- What the characters up to the closing quote, which is the last of them, say; `skip` counts
those of an escape that are still to be passed over. -/
def readFrom : Nat → List Char → Option (List Char)
  | _, [] => none
  | skip + 1, _ :: cs => readFrom skip cs
  | 0, c :: cs =>
    if c == '"' then if cs.isEmpty then some [] else none
    else if c == '\\' then (escape? cs).bind fun (meaning, used) =>
      (readFrom used cs).map fun text => meaning ++ text
    else if c == '\r' then none
    else (readFrom 0 cs).map fun text => c :: text

/-- What a text literal says. -/
def readLiteral? (literal : String) : Option String :=
  match unifiedLines literal.toList with
  | '"' :: cs => (readFrom 0 cs).map String.ofList
  | _ => none

/-! ## Escapes -/

/-- A short escape takes one character, which is all there is to look at. -/
theorem escape?_of_short {c meaning : Char} (h : shortEscape? c = some meaning) (cs : List Char) :
    escape? (c :: cs) = some ([meaning], 1) := by
  simp only [escape?, h]

/-- A backslash and the letter of a short escape are read as the character that it stands for. -/
theorem readFrom_short {c meaning : Char} (h : shortEscape? c = some meaning) (cs : List Char) :
    readFrom 0 ('\\' :: c :: cs) = (readFrom 0 cs).map fun text => meaning :: text := by
  rw [readFrom, if_neg (by decide), if_pos (by decide), escape?_of_short h]
  rfl

/-- Any character that is not special is read as itself. -/
theorem readFrom_plain {c : Char} (hquote : c ≠ '"') (hslash : c ≠ '\\') (hreturn : c ≠ '\r')
    (cs : List Char) : readFrom 0 (c :: cs) = (readFrom 0 cs).map fun text => c :: text := by
  rw [readFrom, if_neg (by simpa using hquote), if_neg (by simpa using hslash),
    if_neg (by simpa using hreturn)]

/-- **An escape is written longer than what it stands for:** it takes a character at least, and
stands for one at most. -/
theorem escape?_bounds {cs meaning : List Char} {used : Nat}
    (h : escape? cs = some (meaning, used)) :
    meaning.length ≤ 1 ∧ 1 ≤ used ∧ cs ≠ [] := by
  cases cs with
  | nil => cases h
  | cons c cs =>
    rw [escape?] at h
    split at h
    · cases h
      exact ⟨Nat.le_refl _, Nat.le_refl _, nofun⟩
    · split at h
      · obtain ⟨_, -, heq⟩ := Option.map_eq_some_iff.1 h
        cases heq
        exact ⟨Nat.le_refl _, by decide, nofun⟩
      · split at h
        · obtain ⟨_, -, heq⟩ := Option.map_eq_some_iff.1 h
          cases heq
          exact ⟨Nat.le_refl _, Nat.le_add_left .., nofun⟩
        · split at h
          · cases h
            exact ⟨Nat.zero_le _, Nat.le_add_left .., nofun⟩
          · cases h

/-! ## Lengths -/

/-- How many of the characters are special in a literal. -/
def special (cs : List Char) : Nat := cs.count '\\' + cs.count '"'

/-- Special characters are counted part by part. -/
theorem special_append (before after : List Char) :
    special (before ++ after) = special before + special after := by
  rw [special, List.count_append, List.count_append, special, special]
  omega

/-- There are no more special characters than characters. -/
theorem special_le_length (cs : List Char) : special cs ≤ cs.length := by
  induction cs with
  | nil => exact Nat.le_refl 0
  | cons c cs ih =>
    unfold special at ih ⊢
    rw [List.count_cons, List.count_cons, List.length_cons]
    by_cases hslash : c = '\\'
    · subst hslash
      rw [if_pos (by decide), if_neg (by decide)]
      omega
    · rw [if_neg (by simpa using hslash)]
      split <;> omega

/-- **What is read is so much shorter than what is written.** -/
theorem length_le_of_readFrom {skip : Nat} {cs text : List Char}
    (h : readFrom skip cs = some text) :
    2 * text.length + special (cs.drop skip) + 1 ≤ 2 * (cs.drop skip).length := by
  induction cs generalizing skip text with
  | nil => cases skip <;> cases h
  | cons c cs ih => cases skip with
    | succ skip =>
      rw [readFrom] at h
      exact ih h
    | zero =>
      rw [List.drop_zero, List.length_cons]
      have hsplit : special (c :: cs) = special [c] + special cs := special_append [c] cs
      rw [readFrom] at h
      split at h
      · -- the closing quote
        rename_i hquote
        obtain rfl := beq_iff_eq.1 hquote
        split at h
        · rename_i hend
          cases h
          rw [List.isEmpty_iff.1 hend]
          decide
        · cases h
      · split at h
        · -- an escape
          rename_i hslash
          obtain rfl := beq_iff_eq.1 hslash
          obtain ⟨⟨meaning, used⟩, hescape, h⟩ := Option.bind_eq_some_iff.1 h
          obtain ⟨rest, hrest, rfl⟩ := Option.map_eq_some_iff.1 h
          obtain ⟨hmeaning, hused, hne⟩ := escape?_bounds hescape
          have hread := ih hrest
          have hcut : special cs = special (cs.take used) + special (cs.drop used) := by
            rw [← special_append, List.take_append_drop]
          have htake := special_le_length (cs.take used)
          have hlength : cs.length = (cs.take used).length + (cs.drop used).length := by
            rw [← List.length_append, List.take_append_drop]
          -- an escape takes a character at least, and the count may go down by no more than it
          -- takes
          have htaken : 1 ≤ (cs.take used).length := by
            rw [List.length_take]
            have hpos := List.length_pos_iff.2 hne
            omega
          have hone : special ['\\'] = 1 := by decide
          rw [List.length_append, hsplit, hone]
          omega
        · split at h
          · cases h
          · rename_i hquote hslash _
            obtain ⟨rest, hrest, rfl⟩ := Option.map_eq_some_iff.1 h
            have hread := ih hrest
            have hzero : special [c] = 0 := by
              have hslash' : c ≠ '\\' := fun heq => hslash (beq_iff_eq.2 heq)
              have hquote' : c ≠ '"' := fun heq => hquote (beq_iff_eq.2 heq)
              simp [special, hslash', hquote']
            rw [List.drop_zero] at hread
            rw [List.length_cons, hsplit, hzero]
            omega

/-! ## Lines -/

/-- Unifying the ends of lines only drops characters. -/
theorem unifiedLines_sublist (cs : List Char) : (unifiedLines cs).Sublist cs := by
  induction cs with
  | nil => exact .slnil
  | cons c cs ih =>
    rw [unifiedLines]
    split
    · exact ih.cons c
    · exact ih.cons_cons c

/-- Without a carriage return there is nothing to drop. -/
theorem unifiedLines_eq_self {cs : List Char} (h : '\r' ∉ cs) : unifiedLines cs = cs := by
  induction cs with
  | nil => rfl
  | cons c cs ih =>
    rw [List.mem_cons, not_or] at h
    rw [unifiedLines, if_neg (by simp [Ne.symm h.1]), ih h.2]

/-- No special character is lost. -/
theorem special_unifiedLines (cs : List Char) : special (unifiedLines cs) = special cs := by
  induction cs with
  | nil => rfl
  | cons c cs ih =>
    have hsplit (rest : List Char) : special (c :: rest) = special [c] + special rest :=
      special_append [c] rest
    rw [unifiedLines]
    split
    · rename_i hreturn
      rw [Bool.and_eq_true, beq_iff_eq] at hreturn
      have hzero : special [c] = 0 := by rw [hreturn.1]; decide
      rw [ih, hsplit, hzero, Nat.zero_add]
    · rw [hsplit, ih, ← hsplit]

/-- An opening quote stays where it is. -/
theorem unifiedLines_cons_quote (cs : List Char) :
    unifiedLines ('"' :: cs) = '"' :: unifiedLines cs := by
  rw [unifiedLines, if_neg (by simp)]

/-- A quote keeps the lines in front of it and those behind it apart: it is no line feed, so a
carriage return in front of it stays. -/
theorem unifiedLines_append_quote (before after : List Char) :
    unifiedLines (before ++ '"' :: after) = unifiedLines before ++ '"' :: unifiedLines after := by
  induction before with
  | nil => exact unifiedLines_cons_quote after
  | cons c before ih =>
    have hnext : ((before ++ '"' :: after).head? == some '\n') = (before.head? == some '\n') := by
      cases before <;> rfl
    rw [List.cons_append, unifiedLines, unifiedLines, hnext, ih]
    split
    · rfl
    · rw [List.cons_append]

/-! ## Literals with everything escaped -/

/-- What an escaped character is written as: a letter that stands for it, or the character itself
where none is needed. -/
theorem escapedChar_cases (c : Char) :
    (∃ letter ∈ ['\\', '"', 'n', 'r', 't'],
      escapedChar c = ['\\', letter] ∧ shortEscape? letter = some c) ∨
    (escapedChar c = [c] ∧ c ∉ ['\\', '"', '\n', '\r', '\t']) := by
  by_cases hc : c ∈ ['\\', '"', '\n', '\r', '\t']
  · left
    simp only [List.mem_cons, List.not_mem_nil, or_false] at hc
    rcases hc with rfl | rfl | rfl | rfl | rfl
    · exact ⟨'\\', by decide, rfl, rfl⟩
    · exact ⟨'"', by decide, rfl, rfl⟩
    · exact ⟨'n', by decide, rfl, rfl⟩
    · exact ⟨'r', by decide, rfl, rfl⟩
    · exact ⟨'t', by decide, rfl, rfl⟩
  · refine Or.inr ⟨?_, hc⟩
    simp only [List.mem_cons, List.not_mem_nil, or_false, not_or] at hc
    simp [escapedChar, hc]

/-- However a character is written, it is read back as itself, and reading goes on behind it. -/
theorem readFrom_escapedChar (c : Char) (cs : List Char) :
    readFrom 0 (escapedChar c ++ cs) = (readFrom 0 cs).map fun text => c :: text := by
  rcases escapedChar_cases c with ⟨letter, -, hwritten, hshort⟩ | ⟨hwritten, hplain⟩
  · rw [hwritten]
    exact readFrom_short hshort cs
  · simp only [List.mem_cons, not_or] at hplain
    obtain ⟨hslash, hquote, -, hreturn, -⟩ := hplain
    rw [hwritten]
    exact readFrom_plain hquote hslash hreturn cs

/-- No end of a line is left as it is. -/
theorem not_mem_escapedChar (lineEnd : Char) (h : lineEnd ∈ ['\n', '\r']) (c : Char) :
    lineEnd ∉ escapedChar c := by
  have hescapes : ∀ lineEnd ∈ ['\n', '\r'], ∀ letter ∈ ['\\', '"', 'n', 'r', 't'],
      lineEnd ∉ ['\\', letter] := by simp
  have hescaped : ['\n', '\r'] ⊆ ['\\', '"', '\n', '\r', '\t'] := by simp
  rcases escapedChar_cases c with ⟨letter, hletter, hwritten, -⟩ | ⟨hwritten, hplain⟩
  · rw [hwritten]
    exact hescapes lineEnd h letter hletter
  · rw [hwritten, List.mem_singleton]
    rintro rfl
    exact hplain (hescaped h)

/-- **A text literal says its text.** -/
theorem readLiteral?_textLiteral (text : String) :
    readLiteral? (textLiteral text) = some text := by
  have hchars : (textLiteral text).toList =
      '"' :: (text.toList.flatMap escapedChar ++ ['"']) := by
    simp [textLiteral, escapedText]
  have hread (cs : List Char) : readFrom 0 (cs.flatMap escapedChar ++ ['"']) = some cs := by
    induction cs with
    | nil => rfl
    | cons c cs ih =>
      rw [List.flatMap_cons, List.append_assoc, readFrom_escapedChar, ih]
      rfl
  have hreturn : '\r' ∉ text.toList.flatMap escapedChar ++ ['"'] := by
    intro hmem
    rcases List.mem_append.1 hmem with hmem | hmem
    · obtain ⟨c, -, hc⟩ := List.mem_flatMap.1 hmem
      exact not_mem_escapedChar '\r' (by decide) c hc
    · revert hmem
      decide
  rw [readLiteral?, hchars, unifiedLines_cons_quote, unifiedLines_eq_self hreturn]
  simp [hread]

/-! ## Literals with only quotes escaped -/

/-- How a character is written where only quotes are escaped. -/
def quoteEscaped (c : Char) : List Char := if c == '"' then ['\\', '"'] else [c]

/-- A literal in which only quotes are escaped. -/
def quotesEscaped (text : String) : List Char := '"' :: (text.toList.flatMap quoteEscaped ++ ['"'])

/-- Replacing every quote in a text is the same as writing its characters one by one. -/
theorem replaceAll_quote (cs : List Char) :
    Text.replaceAll ['"'] ['\\', '"'] cs = cs.flatMap quoteEscaped := by
  rw [Text.replaceAll, if_neg (by decide)]
  induction cs with
  | nil => rfl
  | cons c cs ih =>
    rw [Text.replaceFrom, List.flatMap_cons, quoteEscaped]
    by_cases hquote : c = '"'
    · subst hquote
      rw [if_pos (by simp), if_pos (by decide), ← ih]
      rfl
    · rw [if_neg (by simpa using Ne.symm hquote), if_neg (by simpa using hquote), ih]
      rfl

/-- Every quote in the text makes what is written longer by one. -/
theorem length_quoteEscaped (cs : List Char) :
    (cs.flatMap quoteEscaped).length = cs.length + cs.count '"' := by
  induction cs with
  | nil => rfl
  | cons c cs ih =>
    rw [List.flatMap_cons, List.length_append, ih, List.length_cons, List.count_cons, quoteEscaped]
    split
    · simp
      omega
    · simp
      omega

/-- An escaped quote counts twice, a backslash that is left counts once. -/
theorem special_quoteEscaped (cs : List Char) :
    special (cs.flatMap quoteEscaped) = cs.count '\\' + 2 * cs.count '"' := by
  induction cs with
  | nil => rfl
  | cons c cs ih =>
    rw [List.flatMap_cons, special_append, ih, List.count_cons, List.count_cons, quoteEscaped]
    by_cases hquote : c = '"'
    · subst hquote
      have htwo : special ['\\', '"'] = 2 := by decide
      rw [if_pos (by decide), htwo, if_neg (by decide), if_pos (by decide)]
      omega
    · rw [if_neg (by simpa using hquote)]
      by_cases hslash : c = '\\'
      · subst hslash
        have hone : special ['\\'] = 1 := by decide
        rw [hone, if_pos (by decide), if_neg (by decide)]
        omega
      · have hzero : special [c] = 0 := by simp [special, hslash, hquote]
        rw [hzero, if_neg (by simpa using hslash), if_neg (by simpa using hquote)]
        omega

/-- Without a backslash every escape is that of a quote. -/
theorem readFrom_quoteEscaped {cs : List Char} (h : '\\' ∉ cs) :
    readFrom 0 (cs.flatMap quoteEscaped ++ ['"']) = if '\r' ∈ cs then none else some cs := by
  induction cs with
  | nil => rfl
  | cons c cs ih =>
    rw [List.mem_cons, not_or] at h
    rw [List.flatMap_cons, List.append_assoc, quoteEscaped]
    by_cases hquote : c = '"'
    · subst hquote
      have hread := readFrom_short (c := '"') rfl (cs.flatMap quoteEscaped ++ ['"'])
      rw [if_pos (by decide)]
      refine hread.trans ?_
      rw [ih h.2]
      by_cases hreturn : '\r' ∈ cs
      · rw [if_pos hreturn, if_pos (List.mem_cons_of_mem _ hreturn)]
        rfl
      · rw [if_neg hreturn, if_neg (by simp [hreturn])]
        rfl
    · -- any other character is written as it is; a carriage return is refused right here, and
      -- otherwise the rest decides
      rw [if_neg (by simpa using hquote), List.singleton_append]
      by_cases hc : c = '\r'
      · subst hc
        rw [if_pos List.mem_cons_self]
        rfl
      · rw [readFrom_plain hquote (Ne.symm h.1) hc, ih h.2]
        by_cases hreturn : '\r' ∈ cs
        · rw [if_pos hreturn, if_pos (List.mem_cons_of_mem _ hreturn)]
          rfl
        · rw [if_neg hreturn, if_neg (by simp [hreturn, Ne.symm hc])]
          rfl

/-- **A literal with only quotes escaped says its text** exactly if no backslash and no carriage
return is in it. -/
theorem readLiteral?_quotesEscaped_iff (text : String) :
    readLiteral? (String.ofList (quotesEscaped text)) = some text ↔
      '\\' ∉ text.toList ∧ '\r' ∉ text.toList := by
  have hliteral : readLiteral? (String.ofList (quotesEscaped text)) =
      (readFrom 0 (unifiedLines (text.toList.flatMap quoteEscaped ++ ['"']))).map
        String.ofList := by
    rw [readLiteral?, String.toList_ofList, quotesEscaped, unifiedLines_cons_quote]
    rfl
  rw [hliteral]
  generalize hwritten : text.toList.flatMap quoteEscaped ++ ['"'] = written
  constructor
  · intro h
    obtain ⟨cs, hcs, heq⟩ := Option.map_eq_some_iff.1 h
    have hchars : cs = text.toList := by rw [← heq, String.toList_ofList]
    subst hchars
    -- the literal is just long enough for its text if nothing in it is shortened
    have hlength := length_le_of_readFrom hcs
    have hsub := unifiedLines_sublist written
    have hend : special ['"'] = 1 := by decide
    have hspecial : special written = text.toList.count '\\' + 2 * text.toList.count '"' + 1 := by
      rw [← hwritten, special_append, special_quoteEscaped, hend]
    have hall : written.length = text.toList.length + text.toList.count '"' + 1 := by
      rw [← hwritten, List.length_append, length_quoteEscaped, List.length_singleton]
    rw [List.drop_zero, special_unifiedLines, hspecial] at hlength
    have hle := hsub.length_le
    have hslash : '\\' ∉ text.toList := List.count_eq_zero.1 (by omega)
    have hsame : unifiedLines written = written := hsub.eq_of_length (by omega)
    rw [hsame, ← hwritten, readFrom_quoteEscaped hslash] at hcs
    refine ⟨hslash, fun hreturn => ?_⟩
    rw [if_pos hreturn] at hcs
    cases hcs
  · rintro ⟨hslash, hreturn⟩
    have hnone : '\r' ∉ written := by
      rw [← hwritten]
      intro hmem
      rcases List.mem_append.1 hmem with hmem | hmem
      · obtain ⟨c, hc, hmem⟩ := List.mem_flatMap.1 hmem
        unfold quoteEscaped at hmem
        split at hmem
        · revert hmem
          decide
        · exact hreturn (List.mem_singleton.1 hmem ▸ hc)
      · revert hmem
        decide
    rw [unifiedLines_eq_self hnone, ← hwritten, readFrom_quoteEscaped hslash, if_neg hreturn,
      Option.map_some, String.ofList_toList]

example : readLiteral? "\"tab \\t, \\x41, \\u\x7b1_F600\x7d, over \\\n   there\"" =
    some "tab \t, A, 😀, over there" := by decide +kernel

end ClientForge.Code
