/-
  What the segments of a route say is the route.

  A template such as `/orders/{id}/items` is cut into segments, literals and placeholders, and later
  on only the segments are looked at.  Here it is shown what the cutting keeps: written one behind the
  other, each as the template has it, the segments are the template again — with one exception.  An
  opening brace at the very end begins a placeholder without a text, and no segment comes of it, so
  that brace is lost (`segmentsFrom_source`).

  The characters are gone through one by one, and the run is in one of two states: inside a
  placeholder, or outside.  What makes the induction go through is what has been passed of the segment
  begun (`Begun`): inside there is no closing brace in it, for that would have ended it, and outside
  no opening one.  The brace that opened the placeholder is not kept with what follows, and has to be
  put back whenever the segment is compared with the template (`begun`).

  * `EndsOpen` says in terms of the template alone that it ends with such a brace: behind its last
    closing brace there is one opening brace only, and it is the last character.  Both ends count — in
    `{a{` the second brace is part of a name that is begun, and the template keeps it.
  * `Encloses` says that an opening brace is followed by a closing one, and this is exactly when a
    route has a placeholder (`placeholdersFrom_eq_nil_iff`).
-/
import ClientForge.Endpoint.Route
import ClientForge.Proofs.Text.Parts

namespace ClientForge

open ClientForge.Text

/-! ## Routes and their segments -/

/-- What the row of segments makes, each segment giving the text that `fill` has for it. -/
def joined (fill : Segment → String) (segments : List Segment) : List Char :=
  (String.join (segments.map fill)).toList

section Filling

variable {fill : Segment → String}

/-- No segments make no text. -/
theorem joined_nil : joined fill [] = [] := by
  rw [joined, List.map_nil, String.join_nil, String.toList_empty]

/-- A segment more puts its text in front. -/
theorem joined_cons (segment : Segment) (segments : List Segment) :
    joined fill (segment :: segments) = (fill segment).toList ++ joined fill segments := by
  rw [joined, List.map_cons, String.join_cons, String.toList_append]
  rfl

/-- Characters that become a literal are there as they are; no characters become no literal, which
comes to the same. -/
theorem joined_literalSegment (hliteral : ∀ text, fill (.literal text) = text) (cs : List Char)
    (segments : List Segment) :
    joined fill (Route.literalSegment cs ++ segments) = cs ++ joined fill segments := by
  unfold Route.literalSegment
  cases cs with
  | nil => rfl
  | cons c cs =>
    rw [if_neg (by simp), List.singleton_append, joined_cons, hliteral, String.toList_ofList]

/-- The characters of a segment that is begun, the opening brace of a placeholder included. -/
def begun (inside : Bool) (current : List Char) : List Char :=
  if inside then '\x7b' :: current else current

end Filling

namespace Route

/-- A segment as the template has it. -/
def sourceOf : Segment → String
  | .literal text => text
  | .param name => "\x7b" ++ name ++ "\x7d"

/-- A placeholder stands between braces in the template. -/
theorem sourceOf_param (name : String) :
    (sourceOf (.param name)).toList = '\x7b' :: name.toList ++ ['\x7d'] := by
  simp [sourceOf]

/-! ## Braces -/

/-- The text ends with an opening brace, and behind its last closing one there is no other. -/
def EndsOpen (cs : List Char) : Prop :=
  ∃ word, lastPart '\x7d' cs = word ++ ['\x7b'] ∧ '\x7b' ∉ word

/-- An opening brace in the text is followed by a closing one. -/
def Encloses (cs : List Char) : Prop :=
  ∃ before name after, cs = before ++ '\x7b' :: name ++ '\x7d' :: after

/-- A text without an opening brace does not end open. -/
theorem not_endsOpen_of_not_mem {cs : List Char} (h : '\x7b' ∉ cs) : ¬ EndsOpen cs := by
  rintro ⟨word, heq, -⟩
  have hmem : '\x7b' ∈ lastPart '\x7d' cs := by
    rw [heq]
    exact List.mem_append_right _ List.mem_cons_self
  exact h (mem_of_mem_lastPart hmem)

/-- Only what is behind the last closing brace counts for the end. -/
theorem endsOpen_append_cons (before after : List Char) :
    EndsOpen (before ++ '\x7d' :: after) ↔ EndsOpen after := by
  rw [EndsOpen, lastPart_append_cons, EndsOpen]

/-- Behind an opening brace the text ends open only if it ends. -/
theorem endsOpen_open_iff {before after : List Char} (hbefore : '\x7b' ∉ before)
    (hafter : '\x7d' ∉ after) : EndsOpen (before ++ '\x7b' :: after) ↔ after = [] := by
  have hlast : lastPart '\x7d' (before ++ '\x7b' :: after) =
      lastPart '\x7d' before ++ '\x7b' :: after := lastPart_append (by simpa using hafter) before
  have hnone : '\x7b' ∉ lastPart '\x7d' before := fun hmem => hbefore (mem_of_mem_lastPart hmem)
  rw [EndsOpen, hlast]
  constructor
  · rintro ⟨word, heq, hword⟩
    apply Classical.byContradiction
    intro hne
    obtain ⟨start, c, rfl⟩ := (List.eq_nil_or_concat after).resolve_left hne
    rw [List.concat_eq_append, ← List.cons_append, ← List.append_assoc] at heq
    obtain ⟨rfl, -⟩ := List.append_inj' heq rfl
    exact hword (List.mem_append_right _ List.mem_cons_self)
  · rintro rfl
    exact ⟨_, rfl, hnone⟩

/-- What stands in front of the first opening brace makes no difference. -/
theorem endsOpen_append_open {before : List Char} (hbefore : '\x7b' ∉ before) (after : List Char) :
    EndsOpen (before ++ '\x7b' :: after) ↔ EndsOpen ('\x7b' :: after) := by
  by_cases hclose : '\x7d' ∈ after
  · obtain ⟨name, rest, rfl⟩ := List.append_of_mem hclose
    rw [← List.cons_append, ← List.append_assoc, endsOpen_append_cons, endsOpen_append_cons]
  · rw [endsOpen_open_iff hbefore hclose]
    exact (endsOpen_open_iff List.not_mem_nil hclose).symm

/-- Behind the first opening brace of a text there is a placeholder if a closing one follows. -/
theorem encloses_append_open {before : List Char} (hbefore : '\x7b' ∉ before)
    (after : List Char) : Encloses (before ++ '\x7b' :: after) ↔ '\x7d' ∈ after := by
  constructor
  · rintro ⟨start, name, rest, heq⟩
    rw [List.append_assoc, List.cons_append] at heq
    rcases List.append_eq_append_iff.1 heq with ⟨word, -, hafter⟩ | ⟨word, rfl, hname⟩
    · have hmem : '\x7d' ∈ '\x7b' :: after := by simp [hafter]
      exact (List.mem_cons.1 hmem).resolve_left (by decide)
    · cases word with
      | nil =>
        rw [← List.tail_eq_of_cons_eq hname]
        exact List.mem_append_right _ List.mem_cons_self
      | cons c word =>
        obtain rfl := List.head_eq_of_cons_eq hname
        exact absurd (List.mem_append_right _ List.mem_cons_self) hbefore
  · intro hclose
    obtain ⟨name, rest, rfl⟩ := List.append_of_mem hclose
    exact ⟨before, name, rest, by rw [List.append_assoc, List.cons_append]⟩

/-! ## The segments -/

/-- What has been passed of the segment begun: inside a placeholder no closing brace, outside no
opening one. -/
def Begun (inside : Bool) (current : List Char) : Prop :=
  (if inside then '\x7d' else '\x7b') ∉ current

/-- A character more in a segment, if it neither opens nor closes a placeholder. -/
theorem Begun.snoc {inside : Bool} {current : List Char} {c : Char} (h : Begun inside current)
    (hopen : ¬(c == '\x7b' && !inside) = true) (hclose : ¬(c == '\x7d' && inside) = true) :
    Begun inside (current ++ [c]) := by
  intro hmem
  rcases List.mem_append.1 hmem with hmem | hmem
  · exact h hmem
  · obtain rfl := List.mem_singleton.1 hmem
    cases inside
    · exact hopen rfl
    · exact hclose rfl

/-- The next character can be counted to the segment begun or to what is still to come. -/
theorem begun_snoc (inside : Bool) (current : List Char) (c : Char) (cs : List Char) :
    begun inside (current ++ [c]) ++ cs = begun inside current ++ c :: cs := by
  cases inside <;> simp [begun]

/-- A segment that is begun ends open if nothing but the brace of its placeholder has been passed.
-/
theorem endsOpen_begun {inside : Bool} {current : List Char} (h : Begun inside current) :
    EndsOpen (begun inside current) ↔ inside = true ∧ current = [] := by
  cases inside with
  | true => simpa [begun] using endsOpen_open_iff List.not_mem_nil h
  | false => simpa [begun] using not_endsOpen_of_not_mem h

/-- A segment that is begun encloses nothing yet. -/
theorem not_encloses_begun {inside : Bool} {current : List Char} (h : Begun inside current) :
    ¬ Encloses (begun inside current) := by
  cases inside with
  | true => exact fun hencloses => h ((encloses_append_open List.not_mem_nil current).1 hencloses)
  | false =>
    rintro ⟨before, name, after, rfl⟩
    exact h (by simp)

/-- What the segments of a text leave out of it. -/
def LeftOut (cs rest : List Char) : Prop :=
  rest = [] ∧ ¬ EndsOpen cs ∨ rest = ['\x7b'] ∧ EndsOpen cs

/-- What is left out depends on the end of the text only. -/
theorem leftOut_congr {cs ds rest : List Char} (h : EndsOpen cs ↔ EndsOpen ds) :
    LeftOut cs rest ↔ LeftOut ds rest := by
  rw [LeftOut, LeftOut, h]

/-- **The segments have every character of the template,** an opening brace at the end apart. -/
theorem segmentsFrom_source {inside : Bool} {current : List Char} (cs : List Char)
    (h : Begun inside current) :
    ∃ rest, LeftOut (begun inside current ++ cs) rest ∧
      begun inside current ++ cs = joined sourceOf (segmentsFrom inside current cs) ++ rest := by
  have hliteral (text : String) : sourceOf (.literal text) = text := rfl
  -- the brace of a placeholder begun is no part of `current`, so it is missing from an end there
  fun_induction segmentsFrom inside current cs with
  | case1 inside current hempty =>
    obtain rfl := List.isEmpty_iff.1 hempty
    rw [List.append_nil, joined_nil]
    cases inside with
    | true => exact ⟨_, .inr ⟨rfl, (endsOpen_begun h).2 ⟨rfl, rfl⟩⟩, rfl⟩
    | false => exact ⟨_, .inl ⟨rfl, fun hopen => nomatch ((endsOpen_begun h).1 hopen).1⟩, rfl⟩
  | case2 inside current hsome =>
    -- the text is at its end with something passed, so that becomes a literal, with its brace if it
    -- has one
    have hopen : ¬ EndsOpen (begun inside current) := fun hopen =>
      hsome (List.isEmpty_iff.2 ((endsOpen_begun h).1 hopen).2)
    refine ⟨[], .inl ⟨rfl, by rwa [List.append_nil]⟩, ?_⟩
    have hjoined := joined_literalSegment hliteral (begun inside current) []
    rw [List.append_nil, joined_nil, List.append_nil] at hjoined
    rw [← begun, hjoined, List.append_nil]
  | case3 inside current c cs hopen ih =>
    obtain ⟨hc, hout⟩ := Bool.and_eq_true_iff.1 hopen
    obtain rfl := beq_iff_eq.1 hc
    obtain rfl : inside = false := by simpa using hout
    obtain ⟨rest, hrest, heq⟩ := ih List.not_mem_nil
    -- a literal ends here and a placeholder begins: the literal has no brace, so it does not count
    -- for the end
    refine ⟨rest, (leftOut_congr (endsOpen_append_open h cs)).2 hrest, ?_⟩
    rw [joined_literalSegment hliteral, List.append_assoc, ← heq]
    rfl
  | case4 inside current c cs hopen hclose ih =>
    obtain ⟨hc, rfl⟩ := Bool.and_eq_true_iff.1 hclose
    obtain rfl := beq_iff_eq.1 hc
    obtain ⟨rest, hrest, heq⟩ := ih List.not_mem_nil
    refine ⟨rest, (leftOut_congr (endsOpen_append_cons _ cs)).2 hrest, ?_⟩
    rw [joined_cons, sourceOf_param, String.toList_ofList, List.append_assoc, ← heq,
      List.append_assoc]
    rfl
  | case5 inside current c cs hopen hclose ih =>
    rw [← begun_snoc]
    exact ih (h.snoc hopen hclose)

/-- Characters become one literal or, if there are none, no segment. -/
theorem mem_literalSegment {segment : Segment} {cs : List Char} (h : segment ∈ literalSegment cs) :
    segment = .literal (String.ofList cs) ∧ cs ≠ [] := by
  unfold literalSegment at h
  split at h
  · cases h
  · rename_i hsome
    exact ⟨List.mem_singleton.1 h, fun hnil => hsome (List.isEmpty_iff.2 hnil)⟩

/-- There is no empty literal among the segments. -/
theorem literal_empty_not_mem_segmentsFrom (inside : Bool) (current cs : List Char) :
    Segment.literal "" ∉ segmentsFrom inside current cs := by
  have hliteral (cs : List Char) : Segment.literal "" ∉ literalSegment cs := by
    intro hmem
    obtain ⟨heq, hne⟩ := mem_literalSegment hmem
    have htext : "" = String.ofList cs := Segment.literal.inj heq
    exact hne (String.ofList_eq_empty_iff.1 htext.symm)
  fun_induction segmentsFrom inside current cs with
  | case1 inside current hempty => exact List.not_mem_nil
  | case2 inside current hsome => exact hliteral _
  | case3 inside current c cs hopen ih =>
    exact fun hmem => (List.mem_append.1 hmem).elim (hliteral _) ih
  | case4 inside current c cs hopen hclose ih =>
    exact fun hmem => (List.mem_cons.1 hmem).elim (fun heq => nomatch heq) ih
  | case5 inside current c cs hopen hclose ih => exact ih

/-- A literal has no placeholder. -/
theorem filterMap_param?_literalSegment (cs : List Char) :
    (literalSegment cs).filterMap Segment.param? = [] := by
  rw [List.filterMap_eq_nil_iff]
  intro segment hmem
  rw [(mem_literalSegment hmem).1]
  rfl

/-- There is a placeholder if and only if an opening brace is followed by a closing one. -/
theorem placeholdersFrom_eq_nil_iff {inside : Bool} {current : List Char} (cs : List Char)
    (h : Begun inside current) :
    (segmentsFrom inside current cs).filterMap Segment.param? = [] ↔
      ¬ Encloses (begun inside current ++ cs) := by
  fun_induction segmentsFrom inside current cs with
  | case1 inside current hempty =>
    rw [List.append_nil]
    exact iff_of_true rfl (not_encloses_begun h)
  | case2 inside current hsome =>
    rw [List.append_nil]
    exact iff_of_true (filterMap_param?_literalSegment _) (not_encloses_begun h)
  | case3 inside current c cs hopen ih =>
    obtain ⟨hc, hout⟩ := Bool.and_eq_true_iff.1 hopen
    obtain rfl := beq_iff_eq.1 hc
    obtain rfl : inside = false := by simpa using hout
    -- the literal that ends here has no brace, so it encloses nothing
    have hsame : Encloses (begun false current ++ '\x7b' :: cs) ↔ Encloses ('\x7b' :: cs) :=
      (encloses_append_open h cs).trans (encloses_append_open List.not_mem_nil cs).symm
    rw [List.filterMap_append, filterMap_param?_literalSegment, List.nil_append, hsame]
    exact ih List.not_mem_nil
  | case4 inside current c cs hopen hclose ih =>
    obtain ⟨hc, rfl⟩ := Bool.and_eq_true_iff.1 hclose
    obtain rfl := beq_iff_eq.1 hc
    -- the placeholder ends here, so there is one, and its two braces show it
    exact iff_of_false (List.cons_ne_nil _ _) (not_not_intro ⟨[], current, cs, rfl⟩)
  | case5 inside current c cs hopen hclose ih =>
    rw [← begun_snoc]
    exact ih (h.snoc hopen hclose)

/-- **What the segments of a route say,** for every text.  Written in order as the template has them
they are the route, unless it ends open; then the brace at its end is missing.  No literal is
empty, and there is a placeholder exactly where an opening brace is followed by a closing one. -/
theorem segments_source_iff (route : String) :
    (String.join ((segments route).map sourceOf) = route ↔ ¬ EndsOpen route.toList) ∧
    (String.join ((segments route).map sourceOf) ++ "\x7b" = route ↔ EndsOpen route.toList) ∧
    Segment.literal "" ∉ segments route ∧
    (placeholders route = [] ↔ ¬ Encloses route.toList) := by
  have hbegun : Begun false [] := List.not_mem_nil
  have hliteral : Segment.literal "" ∉ segments route :=
    literal_empty_not_mem_segmentsFrom false [] route.toList
  have hparam : placeholders route = [] ↔ ¬ Encloses route.toList :=
    placeholdersFrom_eq_nil_iff route.toList hbegun
  have hne (text : String) : text ++ "\x7b" ≠ text := fun heq => by
    simpa using congrArg String.length heq
  obtain ⟨rest, ⟨rfl, hopen⟩ | ⟨rfl, hopen⟩, hroute⟩ := segmentsFrom_source route.toList hbegun
  · have heq : String.join ((segments route).map sourceOf) = route :=
      String.toList_injective ((List.append_nil _).symm.trans hroute.symm)
    rw [heq]
    exact ⟨iff_of_true rfl hopen, iff_of_false (hne route) hopen, hliteral, hparam⟩
  · have heq : String.join ((segments route).map sourceOf) ++ "\x7b" = route :=
      String.toList_injective (String.toList_append.trans hroute.symm)
    have hlost : String.join ((segments route).map sourceOf) ≠ route := fun hsame => by
      rw [hsame] at heq
      exact hne route heq
    exact ⟨iff_of_false hlost (not_not_intro hopen), iff_of_true heq hopen, hliteral, hparam⟩

example : segments "/a/\x7b" = [.literal "/a/"] := by decide +kernel

end Route

open Route

/-- A route is what its segments are in the template, but for an opening brace at its very end. -/
theorem exists_source_segments (route : String) :
    ∃ rest, (rest = [] ∨ rest = ['\x7b']) ∧
      route.toList = joined sourceOf (segments route) ++ rest := by
  have hbegun : Begun false [] := List.not_mem_nil
  obtain ⟨rest, hrest, heq⟩ := segmentsFrom_source route.toList hbegun
  exact ⟨rest, hrest.imp And.left And.left, heq⟩

end ClientForge
