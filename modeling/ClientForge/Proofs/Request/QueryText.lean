/-
  A query says the pairs it was made from.

  The keys and values of a query are texts in any script.  They are written in percent encoding, with
  equals signs and ampersands between them and a question mark in front; what is put together so has to
  fall apart again into the same pairs.  Reading is defined for that purpose and does what a server
  would (`read?`): it cuts at the first question mark, at ampersands, and each part at its first equals
  sign, and decodes both sides.

  1. **Octets.**  An octet in percent encoding is one unreserved character or an escape, so what is read
     first gives the octet back, whatever follows (`octets?_encodedOctet`).  There are 256 octets, and a
     statement about one of them is checked on all.
  2. **Texts.**  A text is encoded octet by octet, so decoding gives its octets back and with them the
     text (`decoded?_encoded`).  No separator stands in an encoded text.
  3. **Queries.**  The separators of a query are therefore those that were put between its pairs and
     inside them: cutting at them finds the encoded texts again (`split_pairs`, `read?_append`).

  The result also says that a query is written in a small alphabet (`Written`), and that the stand-in,
  which looks at a path up to the first question mark, does not see it.  For that the path itself must
  have no question mark; with one, reading would cut there.
-/
import ClientForge.Client.Mock
import ClientForge.Client.Query
import ClientForge.Json.Reader
import ClientForge.Proofs.Ordered.Permutation
import ClientForge.Proofs.Text.Parts
import ClientForge.Proofs.Text.Utf8

namespace ClientForge.Query

open ClientForge.Text ClientForge.Client

/-! ## Reading a query -/

/-- The octets that a percent-encoded text stands for; a percent sign begins an escape. -/
def octets? : List Char → Option (List UInt8)
  | [] => some []
  | c :: cs =>
    if c = '%' then
      match cs with
      | high :: low :: rest => do
        let octet := 16 * (← Json.hexValue? high) + (← Json.hexValue? low)
        return UInt8.ofNat octet :: (← octets? rest)
      | _ => none
    else (octets? cs).map (utf8 [c] ++ ·)

/-- A character that begins no escape stands for its own octets. -/
theorem octets?_cons {c : Char} (hc : c ≠ '%') (cs : List Char) :
    octets? (c :: cs) = (octets? cs).map (utf8 [c] ++ ·) := by
  rw [octets?.eq_def]
  exact if_neg hc

/-- An escape stands for one octet. -/
theorem octets?_escape {high low : Char} {m n : Nat} (hhigh : Json.hexValue? high = some m)
    (hlow : Json.hexValue? low = some n) (cs : List Char) :
    octets? ('%' :: high :: low :: cs) = (octets? cs).map (UInt8.ofNat (16 * m + n) :: ·) := by
  rw [octets?, if_pos rfl, hhigh, hlow]
  cases octets? cs <;> rfl

/-- The text that a percent-encoded text stands for. -/
def decoded? (cs : List Char) : Option String :=
  ((octets? cs).bind ofUtf8?).map String.ofList

/-- A key and its value, cut at the first equals sign. -/
def readPair? (part : List Char) : Option (String × String) := do
  let (key, value) ← cutAt? '=' part
  return (← decoded? key, ← decoded? value)

/-- The path and the pairs of its query, cut at the first question mark. -/
def read? (text : String) : Option (String × List (String × String)) :=
  match cutAt? '?' text.toList with
  | none => some (text, [])
  | some (path, query) =>
    ((split '&' query).mapM readPair?).map fun pairs => (String.ofList path, pairs)

/-- The text of a query: unreserved characters, escapes with two upper-case hexadecimal digits, and
separators. -/
inductive Written : List Char → Prop
  | nil : Written []
  | unreserved {c : Char} {cs : List Char} (hc : isUnreserved c = true) (h : Written cs) :
      Written (c :: cs)
  | escape {high low : Char} {cs : List Char} (hhigh : high ∈ "0123456789ABCDEF".toList)
      (hlow : low ∈ "0123456789ABCDEF".toList) (h : Written cs) :
      Written ('%' :: high :: low :: cs)
  | separator {c : Char} {cs : List Char} (hc : c ∈ ['?', '&', '=']) (h : Written cs) :
      Written (c :: cs)

example : read? "/items?q=a%20b&ids=1%2C2" = some ("/items", [("q", "a b"), ("ids", "1,2")]) := by
  decide +kernel

/-! ## Octets -/

/-- The digits of escapes are in upper case. -/
theorem hexDigit_mem : ∀ n < 16, hexDigit n ∈ "0123456789ABCDEF".toList := by decide

/-- They are unreserved characters. -/
theorem isUnreserved_hexDigit : ∀ n < 16, isUnreserved (hexDigit n) = true := by decide

/-- They are read as the numbers they were written for. -/
theorem hexValue?_hexDigit : ∀ n < 16, Json.hexValue? (hexDigit n) = some n := by decide

/-- An unreserved character has one octet, and it does not begin an escape. -/
theorem utf8_of_isUnreserved : ∀ n < 256, isUnreserved (Char.ofNat n) = true →
    Char.ofNat n ≠ '%' ∧ utf8 [Char.ofNat n] = [UInt8.ofNat n] := by
  decide +kernel

/-- **How an octet is written:** as an unreserved character of which it is the only octet, or as an
escape with its two digits. -/
theorem encodedOctet_cases (octet : UInt8) :
    (∃ c, encodedOctet octet = [c] ∧ isUnreserved c = true ∧ c ≠ '%' ∧ utf8 [c] = [octet]) ∨
      ∃ m n, encodedOctet octet = ['%', hexDigit m, hexDigit n] ∧ m < 16 ∧ n < 16 ∧
        UInt8.ofNat (16 * m + n) = octet := by
  have hlt : octet.toNat < 256 := octet.toNat_lt
  by_cases hplain : isUnreserved (Char.ofNat octet.toNat) = true
  · obtain ⟨hne, hutf8⟩ := utf8_of_isUnreserved octet.toNat hlt hplain
    rw [UInt8.ofNat_toNat] at hutf8
    exact .inl ⟨_, if_pos hplain, hplain, hne, hutf8⟩
  · have hvalue : 16 * (octet.toNat / 16) + octet.toNat % 16 = octet.toNat := by omega
    refine .inr ⟨_, _, if_neg hplain, by omega, by omega, ?_⟩
    rw [hvalue, UInt8.ofNat_toNat]

/-- **An encoded octet is read as the octet,** whatever follows. -/
theorem octets?_encodedOctet (octet : UInt8) (cs : List Char) :
    octets? (encodedOctet octet ++ cs) = (octets? cs).map (octet :: ·) := by
  rcases encodedOctet_cases octet with ⟨c, heq, -, hne, hutf8⟩ | ⟨m, n, heq, hm, hn, hvalue⟩
  · rw [heq, List.singleton_append, octets?_cons hne, hutf8]
    rfl
  · have hread := octets?_escape (hexValue?_hexDigit m hm) (hexValue?_hexDigit n hn) cs
    rw [hvalue] at hread
    rw [heq]
    exact hread

/-- An encoded octet is in the alphabet of queries. -/
theorem written_encodedOctet (octet : UInt8) : Written (encodedOctet octet) := by
  rcases encodedOctet_cases octet with ⟨c, heq, hplain, -⟩ | ⟨m, n, heq, hm, hn, -⟩
  · rw [heq]
    exact .unreserved hplain .nil
  · rw [heq]
    exact .escape (hexDigit_mem m hm) (hexDigit_mem n hn) .nil

/-- No separator is written for an octet. -/
theorem not_mem_encodedOctet {sep : Char} (hsep : sep ∈ ['?', '&', '=']) (octet : UInt8) :
    sep ∉ encodedOctet octet := by
  have hreserved : isUnreserved sep = false ∧ sep ≠ '%' := by
    simp only [List.mem_cons, List.not_mem_nil, or_false] at hsep
    rcases hsep with rfl | rfl | rfl <;> decide
  intro hmem
  have hplain : isUnreserved sep = true := by
    rcases encodedOctet_cases octet with ⟨c, heq, hplain, -⟩ | ⟨m, n, heq, hm, hn, -⟩
    · rw [heq, List.mem_singleton] at hmem
      rwa [hmem]
    · simp only [heq, List.mem_cons, List.not_mem_nil, or_false, hreserved.2, false_or] at hmem
      rcases hmem with rfl | rfl
      · exact isUnreserved_hexDigit m hm
      · exact isUnreserved_hexDigit n hn
  rw [hreserved.1] at hplain
  cases hplain

/-! ## Texts -/

/-- An encoded text stands for the octets of the text. -/
theorem octets?_encoded (text : String) : octets? (encoded text) = some (utf8 text.toList) := by
  unfold encoded
  induction utf8 text.toList with
  | nil => rfl
  | cons octet octets ih => rw [List.flatMap_cons, octets?_encodedOctet, ih]; rfl

/-- It is read as the text. -/
theorem decoded?_encoded (text : String) : decoded? (encoded text) = some text := by
  rw [decoded?, octets?_encoded, Option.bind_some, ofUtf8?_utf8, Option.map_some,
    String.ofList_toList]

/-- No separator is in an encoded text. -/
theorem not_mem_encoded {sep : Char} (hsep : sep ∈ ['?', '&', '=']) (text : String) :
    sep ∉ encoded text := by
  intro hmem
  obtain ⟨octet, -, hc⟩ := List.mem_flatMap.1 hmem
  exact not_mem_encodedOctet hsep octet hc

/-- Two texts in the alphabet make one. -/
theorem Written.append {cs ds : List Char} (h : Written cs) (hds : Written ds) :
    Written (cs ++ ds) := by
  induction h with
  | nil => exact hds
  | unreserved hc _ ih => exact .unreserved hc ih
  | escape hhigh hlow _ ih => exact .escape hhigh hlow ih
  | separator hc _ ih => exact .separator hc ih

/-- So does any number of them. -/
theorem Written.flatMap {α : Type} {f : α → List Char} (h : ∀ x, Written (f x)) (xs : List α) :
    Written (xs.flatMap f) := by
  induction xs with
  | nil => exact .nil
  | cons x xs ih => exact (h x).append ih

/-- An encoded text is in the alphabet. -/
theorem written_encoded (text : String) : Written (encoded text) :=
  .flatMap written_encodedOctet _

/-! ## Pairs -/

/-- An encoded pair is read as the pair. -/
theorem readPair?_encodedPair (pair : String × String) :
    readPair? (encodedPair pair) = some pair := by
  have hkey : '=' ∉ encoded pair.1 := not_mem_encoded (by decide) pair.1
  rw [readPair?, encodedPair, cutAt?_append_cons hkey]
  simp [decoded?_encoded]

/-- Between the pairs no separator is in a pair. -/
theorem not_mem_encodedPair {sep : Char} (hsep : sep ∈ ['?', '&']) (pair : String × String) :
    sep ∉ encodedPair pair := by
  have hmem : sep ∈ ['?', '&', '='] := List.mem_append_left ['='] hsep
  intro h
  rcases List.mem_append.1 h with h | h
  · exact not_mem_encoded hmem _ h
  · rcases List.mem_cons.1 h with rfl | h
    · exact absurd hsep (by decide)
    · exact not_mem_encoded hmem _ h

/-- An encoded pair is in the alphabet. -/
theorem written_encodedPair (pair : String × String) : Written (encodedPair pair) :=
  (written_encoded pair.1).append (.separator (by decide) (written_encoded pair.2))

/-! ## Queries -/

/-- A query is in the alphabet. -/
theorem written_queryChars (pairs : List (String × String)) : Written (queryChars pairs) := by
  cases pairs with
  | nil => exact .nil
  | cons first rest =>
    have hrest : Written (rest.flatMap fun pair => '&' :: encodedPair pair) :=
      .flatMap (fun pair => .separator (by decide) (written_encodedPair pair)) rest
    exact .separator (by decide) ((written_encodedPair first).append hrest)

/-- The parts of a query between its ampersands are its pairs. -/
theorem split_pairs (first : String × String) (rest : List (String × String)) :
    split '&' (encodedPair first ++ rest.flatMap fun pair => '&' :: encodedPair pair) =
      (first :: rest).map encodedPair := by
  have hnone (pair : String × String) : '&' ∉ encodedPair pair :=
    not_mem_encodedPair (by decide) pair
  induction rest generalizing first with
  | nil => rw [List.flatMap_nil, List.append_nil, split_of_not_mem (hnone first)]; rfl
  | cons next rest ih =>
    rw [List.flatMap_cons, List.cons_append, split_append_cons, split_of_not_mem (hnone first), ih]
    rfl

/-- Without pairs a path stays as it is. -/
theorem append_nil (path : String) : append path [] = path := by
  rw [append, queryChars, List.append_nil, String.ofList_toList]

/-- A query is not looked at. -/
theorem firstPart_queryChars (pairs : List (String × String)) :
    firstPart '?' (queryChars pairs) = [] := by
  cases pairs with
  | nil => rfl
  | cons first rest => exact List.takeWhile_cons_of_neg (by simp)

/-- What is looked at of a path is the same with a query behind it. -/
theorem bare_append (path : String) (pairs : List (String × String)) :
    Mock.bare (append path pairs) = Mock.bare path := by
  rw [Mock.bare, append, String.toList_ofList, Mock.bare]
  by_cases hmark : '?' ∈ path.toList
  · rw [firstPart_append_of_mem hmark]
  · rw [firstPart_append hmark, firstPart_queryChars, List.append_nil, firstPart_of_not_mem hmark]

/-- **A query is read as the pairs it was made from,** in their order, and the path in front of it
as the path; nothing needs to be escaped in it, and the stand-in for a server does not see it. -/
theorem read?_append (path : String) (hpath : '?' ∉ path.toList)
    (pairs : List (String × String)) :
    append path [] = path ∧
    read? (append path pairs) = some (path, pairs) ∧
    (∃ query, append path pairs = path ++ String.ofList query ∧ Written query) ∧
    ∀ table method,
      Mock.lookup table method (append path pairs) = Mock.lookup table method path := by
  refine ⟨append_nil path, ?_, ⟨queryChars pairs, ?_, written_queryChars pairs⟩, ?_⟩
  · cases pairs with
    | nil => rw [append_nil, read?, cutAt?_of_not_mem hpath]
    | cons first rest =>
      have hread := mapM_some_map (readPair? ∘ encodedPair) id (first :: rest)
        fun pair _ => readPair?_encodedPair pair
      rw [read?, append, String.toList_ofList, queryChars, List.cons_append,
        cutAt?_append_cons hpath]
      dsimp only
      rw [split_pairs, List.mapM_map, hread, List.map_id, Option.map_some, String.ofList_toList]
  · rw [append, String.ofList_append, String.ofList_toList]
  · intro table method
    rw [Mock.lookup, bare_append, Mock.lookup]

/-- A query with letters beyond ASCII, with separators in a value and without a key. -/
theorem read?_append_items :
    '?' ∉ "/items".toList ∧
      append "/items" [] = "/items" ∧
      read? (append "/items" [("größe", "1=2&3?"), ("", "50 %")]) =
        some ("/items", [("größe", "1=2&3?"), ("", "50 %")]) ∧
      (∃ query, append "/items" [("größe", "1=2&3?"), ("", "50 %")] =
        "/items" ++ String.ofList query ∧ Written query) ∧
      ∀ table method,
        Mock.lookup table method (append "/items" [("größe", "1=2&3?"), ("", "50 %")]) =
          Mock.lookup table method "/items" :=
  ⟨by decide, read?_append "/items" (by decide) [("größe", "1=2&3?"), ("", "50 %")]⟩

end ClientForge.Query
