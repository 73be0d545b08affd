/-
  A route takes the paths that are made from it.

  Where a placeholder stands in the template something stands in the path, and everything else is the
  same in both (`Filled`).  As long as neither the placeholder nor what fills it holds a slash, the two
  fall apart into segments in the same way, and each segment takes its counterpart (`Filled.takes`).
  The induction is over the way in which the template is filled, character by character outside of
  placeholders and placeholder by placeholder; the segments are never counted.

  A path is looked at up to its first question mark.  One in what fills a placeholder cuts the path off
  there.  The rest of the template then has no counterpart, unless it has no slash: in that case it is
  one segment with the placeholder that is cut, and since that segment has a placeholder it takes
  whatever there is.  Hence the names for what is seen of the path and what is lost of the template:

  * `seenText` — what fills the placeholders up to the first question mark in it;
  * `lostText` — the literal text behind the placeholder in which that question mark stands.

  A template takes the path if neither has a slash (`matches_cut`); without any question mark nothing
  is lost and the whole path is looked at (`matches_kept`).  A brace that is left over at the end of a
  template begins a placeholder for the stand-in, although the client has dropped it, and is carried
  along as what remains.
-/
import ClientForge.Proofs.Endpoints.RouteText
import ClientForge.Proofs.Mock.Lookup
import ClientForge.Proofs.Request.Described
import ClientForge.Proofs.Request.QueryText
import ClientForge.Proofs.Text.Parts

namespace ClientForge

open ClientForge.Text ClientForge.Client

/-! ## Templates filled in -/

/-- `Filled template path` — the path is the template with something in the place of each
placeholder. -/
inductive Filled : List Char → List Char → Prop
  | nil : Filled [] []
  | literal {template path : List Char} (c : Char) (h : Filled template path) :
      Filled (c :: template) (c :: path)
  | hole {template path : List Char} (placeholder filling : List Char)
      (hopen : '\x7b' ∈ placeholder) (hplaceholder : '/' ∉ placeholder) (hfilling : '/' ∉ filling)
      (h : Filled template path) : Filled (placeholder ++ template) (filling ++ path)

/-- A text in front of both. -/
theorem Filled.append_literal {template path : List Char} (text : List Char)
    (h : Filled template path) : Filled (text ++ template) (text ++ path) := by
  induction text with
  | nil => exact h
  | cons c rest ih => exact .literal c ih

/-- A placeholder alone, with what fills it. -/
theorem filled_hole {placeholder : List Char} (filling : List Char) (hopen : '\x7b' ∈ placeholder)
    (hplaceholder : '/' ∉ placeholder) (hfilling : '/' ∉ filling) :
    Filled placeholder filling := by
  have h := Filled.hole placeholder filling hopen hplaceholder hfilling .nil
  rwa [List.append_nil, List.append_nil] at h

/-- **A template takes the path that fills it.** -/
theorem Filled.takes {template path : List Char} (h : Filled template path) :
    List.Forall₂ Mock.Takes (split '/' template) (split '/' path) := by
  -- The induction is on how the path fills the template, one character or one placeholder a step.
  induction h with
  | nil => exact .cons (Or.inr rfl) .nil
  | @literal template path c h ih =>
    rw [split, split]
    -- A slash ends the segment on both sides; any other character prolongs the first segment of
    -- each.
    by_cases hc : c = '/'
    · rw [if_pos hc, if_pos hc]
      exact .cons (Or.inr rfl) ih
    · rw [if_neg hc, if_neg hc]
      cases ht : split '/' template with
      | nil => exact absurd ht (split_ne_nil '/' template)
      | cons first rest => cases hp : split '/' path with
        | nil => exact absurd hp (split_ne_nil '/' path)
        | cons segment segments =>
          rw [ht, hp] at ih
          obtain ⟨hfirst, hrest⟩ := List.forall₂_cons.1 ih
          refine .cons ?_ hrest
          -- A first segment that is a hole stays one when prolonged; a literal one is prolonged
          -- alike.
          rcases hfirst with hhole | rfl
          · left
            simp only [Mock.hasPlaceholder, List.contains_cons, Bool.or_eq_true]
            exact Or.inr hhole
          · exact Or.inr rfl
  | @hole template path placeholder filling hopen hplaceholder hfilling h ih =>
    cases ht : split '/' template with
    | nil => exact absurd ht (split_ne_nil '/' template)
    | cons first rest => cases hp : split '/' path with
      | nil => exact absurd hp (split_ne_nil '/' path)
      | cons segment segments =>
        rw [ht, hp] at ih
        -- Neither the placeholder nor its filling has a slash, so both go into the first segments.
        rw [split_append hplaceholder ht, split_append hfilling hp]
        refine .cons (Or.inl ?_) (List.forall₂_cons.1 ih).2
        simpa [Mock.hasPlaceholder] using Or.inl hopen

open Route

/-! ## What is looked at -/

namespace Route

/-- The literal text of the segments. -/
def literalText : List Segment → List Char
  | [] => []
  | .literal text :: rest => text.toList ++ literalText rest
  | .param _ :: rest => literalText rest

/-- The names of the placeholders, one after the other. -/
def nameText : List Segment → List Char
  | [] => []
  | .literal _ :: rest => nameText rest
  | .param name :: rest => name.toList ++ nameText rest

variable (fill : Segment → String)

/-- What fills the placeholders, as far as the path is looked at: up to the first question mark. -/
def seenText : List Segment → List Char
  | [] => []
  | .literal _ :: rest => seenText rest
  | .param name :: rest =>
    let text := (fill (.param name)).toList
    if '?' ∈ text then firstPart '?' text else text ++ seenText rest

/-- The literal text that is not looked at, behind the first question mark in what fills a
placeholder. -/
def lostText : List Segment → List Char
  | [] => []
  | .literal _ :: rest => lostText rest
  | .param name :: rest =>
    if '?' ∈ (fill (.param name)).toList then literalText rest else lostText rest

/-- A character of the names is in one of them. -/
theorem mem_nameText {c : Char} {segments : List Segment} :
    c ∈ nameText segments ↔ ∃ name ∈ segments.filterMap Segment.param?, c ∈ name.toList := by
  induction segments with
  | nil => simp [nameText]
  | cons segment rest ih => cases segment <;> simp [nameText, Segment.param?, ih]

/-- What is seen is in something that fills a placeholder. -/
theorem mem_seenText {fill : Segment → String} {c : Char} {segments : List Segment}
    (h : c ∈ seenText fill segments) :
    ∃ name ∈ segments.filterMap Segment.param?, c ∈ (fill (.param name)).toList := by
  induction segments with
  | nil => cases h
  | cons segment rest ih => cases segment with
    | literal text => exact ih h
    | param name =>
      show ∃ found ∈ name :: rest.filterMap Segment.param?, c ∈ (fill (.param found)).toList
      rw [seenText] at h
      split at h
      · exact ⟨name, List.mem_cons_self, (List.takeWhile_sublist _).mem h⟩
      · rcases List.mem_append.1 h with h | h
        · exact ⟨name, List.mem_cons_self, h⟩
        · obtain ⟨found, hfound, hmem⟩ := ih h
          exact ⟨found, List.mem_cons_of_mem _ hfound, hmem⟩

/-- Without a question mark everything is looked at. -/
theorem lostText_eq_nil {fill : Segment → String} {segments : List Segment}
    (h : ∀ name ∈ segments.filterMap Segment.param?, '?' ∉ (fill (.param name)).toList) :
    lostText fill segments = [] := by
  induction segments with
  | nil => rfl
  | cons segment rest ih => cases segment with
    | literal text => exact ih h
    | param name =>
      change ∀ found ∈ name :: rest.filterMap Segment.param?, _ at h
      rw [lostText, if_neg (h name List.mem_cons_self)]
      exact ih fun found hfound => h found (List.mem_cons_of_mem _ hfound)

/-- A character of the literal text is in one of the literals. -/
theorem mem_literalText {c : Char} {segments : List Segment} :
    c ∈ literalText segments ↔ ∃ text, Segment.literal text ∈ segments ∧ c ∈ text.toList := by
  induction segments with
  | nil => simp [literalText]
  | cons segment rest ih => cases segment <;> simp [literalText, ih, or_and_right, exists_or]

end Route

section Cut

variable {fill : Segment → String} {segments : List Segment} {rest query : List Char}

/-- The slashes of a template. -/
theorem count_source (segments : List Segment) :
    (joined sourceOf segments).count '/' =
      (literalText segments).count '/' + (nameText segments).count '/' := by
  induction segments with
  | nil => rw [joined_nil]; rfl
  | cons segment rest ih => cases segment with
    | literal text =>
      rw [joined_cons, List.count_append, ih, literalText, List.count_append, nameText, sourceOf,
        Nat.add_assoc]
    | param name =>
      rw [joined_cons, List.count_append, ih, literalText, nameText, List.count_append,
        sourceOf_param]
      simp
      omega

/-- The template is filled in as far as the path is looked at; what is lost of the path stands where
the template still has the placeholder. -/
theorem filled_cut (hliteral : ∀ text, fill (.literal text) = text)
    (hquery : firstPart '?' query = []) (hrest : rest = [] ∨ rest = ['\x7b'])
    (hmark : '?' ∉ literalText segments) (hnames : '/' ∉ nameText segments)
    (hlost : '/' ∉ lostText fill segments) (hseen : '/' ∉ seenText fill segments) :
    Filled (joined sourceOf segments ++ rest)
      (firstPart '?' (joined fill segments ++ query)) := by
  induction segments with
  | nil =>
    rw [joined_nil, joined_nil, List.nil_append, List.nil_append, hquery]
    rcases hrest with rfl | rfl
    · exact .nil
    · exact filled_hole [] List.mem_cons_self (by decide) List.not_mem_nil
  | cons segment more ih => cases segment with
    | literal text =>
      rw [literalText, List.mem_append, not_or] at hmark
      rw [joined_cons, joined_cons, hliteral, List.append_assoc, List.append_assoc,
        firstPart_append hmark.1]
      exact (ih hmark.2 hnames hlost hseen).append_literal text.toList
    | param name =>
      rw [nameText, List.mem_append, not_or] at hnames
      rw [joined_cons, joined_cons, sourceOf_param, List.append_assoc _ _ rest,
        List.append_assoc _ _ query]
      have hplaceholder : '/' ∉ '\x7b' :: name.toList ++ ['\x7d'] := by simp [hnames.1]
      rw [lostText] at hlost
      rw [seenText] at hseen
      split at hlost
      · -- the path ends here, so all that is left of the template is one placeholder
        rename_i hmem
        rw [if_pos hmem] at hseen
        rw [firstPart_append_of_mem hmem]
        refine filled_hole _ List.mem_cons_self ?_ hseen
        have hsource : '/' ∉ joined sourceOf more := by
          rw [← List.count_eq_zero, count_source, List.count_eq_zero.2 hlost,
            List.count_eq_zero.2 hnames.2]
        have hend : '/' ∉ rest := by rcases hrest with rfl | rfl <;> decide
        intro hslash
        rcases List.mem_append.1 hslash with hslash | hslash
        · exact hplaceholder hslash
        · exact (List.mem_append.1 hslash).elim hsource hend
      · rename_i hmem
        rw [if_neg hmem, List.mem_append, not_or] at hseen
        rw [firstPart_append hmem]
        exact .hole _ _ List.mem_cons_self hplaceholder hseen.1
          (ih hmark hnames.2 hlost hseen.2)

end Cut

/-! ## Paths with a query -/

section Path

variable {fill : Segment → String} {route : String}

/-- What is looked at of a path that is made from a route. -/
theorem toList_bare_append (pairs : List (String × String)) :
    (Mock.bare (Query.append (String.join ((segments route).map fill)) pairs)).toList =
      firstPart '?' (joined fill (segments route) ++ Query.queryChars pairs) := by
  rw [Mock.bare, Query.append, String.toList_ofList, String.toList_ofList]
  rfl

/-- **A path that keeps its slashes in place is taken,** whatever the query. -/
theorem matches_cut (hliteral : ∀ text, fill (.literal text) = text)
    (hmark : '?' ∉ literalText (segments route)) (pairs : List (String × String))
    (hnames : '/' ∉ nameText (segments route))
    (hlost : '/' ∉ lostText fill (segments route))
    (hseen : '/' ∉ seenText fill (segments route)) :
    Mock.Matches route
      (Mock.bare (Query.append (String.join ((segments route).map fill)) pairs)) := by
  obtain ⟨rest, hrest, hroute⟩ := exists_source_segments route
  have hquery := Query.firstPart_queryChars pairs
  have hfilled := filled_cut hliteral hquery hrest hmark hnames hlost hseen
  rw [← hroute, ← toList_bare_append] at hfilled
  exact hfilled.takes

/-- **A path with nothing but plain text in its placeholders is taken:** neither a slash nor a
question mark in what fills them, and no slash in their names. -/
theorem matches_kept (hliteral : ∀ text, fill (.literal text) = text)
    (hmark : '?' ∉ literalText (segments route)) (pairs : List (String × String))
    (hparam : ∀ name ∈ placeholders route, '/' ∉ name.toList ∧
      '/' ∉ (fill (.param name)).toList ∧ '?' ∉ (fill (.param name)).toList) :
    Mock.Matches route
      (Mock.bare (Query.append (String.join ((segments route).map fill)) pairs)) := by
  have hlost : lostText fill (segments route) = [] :=
    lostText_eq_nil fun name hname => (hparam name hname).2.2
  refine matches_cut hliteral hmark pairs (fun hmem => ?_) (hlost ▸ List.not_mem_nil)
    fun hmem => ?_
  · obtain ⟨name, hname, hslash⟩ := mem_nameText.1 hmem
    exact (hparam name hname).1 hslash
  · obtain ⟨name, hname, hslash⟩ := mem_seenText hmem
    exact (hparam name hname).2.1 hslash

end Path

end ClientForge
