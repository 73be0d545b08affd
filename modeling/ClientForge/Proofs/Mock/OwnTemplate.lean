/-
  Whether the template of an endpoint takes the path of a call.

  A value is put into the path as it is.  A slash in it begins another segment, and a question mark
  ends what is looked at: the rest of the value and of the route is then taken for a query.  So a call
  can ask for a route that is not its endpoint's, and the question is for which values it does.

  It is told by slashes alone.  A template and a path that it takes have as many segments, hence as
  many slashes.  On the side of the path there are those of the values, as far as they are looked at
  (`seenText`), and of the literal text in front of the question mark; on the side of the template
  those of all literal text and those in the names of placeholders.  What both sides share falls out,
  and the slashes seen in the values balance those of the lost text and of the names
  (`count_seenText_of_matches`).

  1. Where neither names nor lost text have a slash, the values may have none.
  2. Where the values have none, the names and the lost text may have none.
  3. With slashes on both sides a match means that there are as many; it is not said that as many are
     enough, and they are not.

  For the first two the converse holds as well: without slashes the template takes the path
  (`matches_cut`).  The query that the method puts behind the path never matters, because it is behind
  the question mark.
-/
import ClientForge.Proofs.Mock.HappyPath

namespace ClientForge

open ClientForge.Text ClientForge.Client ClientForge.Code ClientForge.Sdk ClientForge.Route

/-! ## Slashes -/

section Slashes

variable {fill : Segment → String} {segments : List Segment} {query : List Char}

/-- **A template and a path that it takes have as many slashes.** -/
theorem count_eq_of_matches {route path : String} (h : Mock.Matches route path) :
    route.toList.count '/' = path.toList.count '/' := by
  have hlength := h.length_eq
  rw [length_split, length_split] at hlength
  exact Nat.succ.inj hlength

/-- The slashes of what is looked at: those of the values that are, and those of all literal text
but what is lost. -/
theorem count_cut (hliteral : ∀ text, fill (.literal text) = text)
    (hquery : firstPart '?' query = []) (hmark : '?' ∉ literalText segments) :
    (firstPart '?' (joined fill segments ++ query)).count '/' + (lostText fill segments).count '/' =
      (literalText segments).count '/' + (seenText fill segments).count '/' := by
  induction segments with
  | nil =>
    rw [joined_nil, List.nil_append, hquery]
    rfl
  | cons segment rest ih => cases segment with
    | literal text =>
      rw [literalText, List.mem_append, not_or] at hmark
      rw [joined_cons, hliteral, List.append_assoc, firstPart_append hmark.1, literalText,
        List.count_append, List.count_append, lostText, seenText, Nat.add_assoc, ih hmark.2,
        Nat.add_assoc]
    | param name =>
      have hrest := ih hmark
      rw [joined_cons, List.append_assoc, literalText, lostText, seenText]
      split
      · rename_i hmem
        rw [firstPart_append_of_mem hmem, Nat.add_comm]
      · rename_i hmem
        rw [firstPart_append hmem, List.count_append, List.count_append]
        omega

/-- Literal text is in the template. -/
theorem mem_source_of_mem_literalText {c : Char} (h : c ∈ literalText segments) :
    c ∈ joined sourceOf segments := by
  induction segments with
  | nil => cases h
  | cons segment rest ih =>
    rw [joined_cons]
    cases segment with
    | literal text =>
      rcases List.mem_append.1 h with h | h
      · exact List.mem_append_left _ h
      · exact List.mem_append_right _ (ih h)
    | param name => exact List.mem_append_right _ (ih h)

end Slashes

/-! ## The path of a call -/

section Call

variable {fill : Segment → String} {route : String}

/-- What the route does not have, its literal text does not have. -/
theorem not_mem_literalText {c : Char} (h : c ∉ route.toList) :
    c ∉ literalText (segments route) := by
  obtain ⟨rest, -, hroute⟩ := exists_source_segments route
  intro hmem
  exact h (hroute ▸ List.mem_append_left _ (mem_source_of_mem_literalText hmem))

/-- **Where the template takes the path, the slashes balance.** -/
theorem count_seenText_of_matches (hliteral : ∀ text, fill (.literal text) = text)
    (hmark : '?' ∉ route.toList) {pairs : List (String × String)}
    (h : Mock.Matches route
      (Mock.bare (Query.append (String.join ((segments route).map fill)) pairs))) :
    (seenText fill (segments route)).count '/' =
      (lostText fill (segments route)).count '/' + (nameText (segments route)).count '/' := by
  obtain ⟨rest, hrest, hroute⟩ := exists_source_segments route
  have hcount := count_eq_of_matches h
  have hcut := count_cut hliteral (Query.firstPart_queryChars pairs) (not_mem_literalText hmark)
  have hend : rest.count '/' = 0 := by rcases hrest with rfl | rfl <;> rfl
  rw [toList_bare_append, hroute, List.count_append, hend, count_source] at hcount
  omega

end Call

section Send

variable {α : Type}

/-- A template scores if it takes the path. -/
theorem isSome_routeScore {route path : String} :
    (Mock.routeScore route path).isSome = true ↔ Mock.Matches route path := by
  rw [Option.isSome_iff_exists]
  constructor
  · rintro ⟨n, hn⟩
    exact (Mock.routeScore_eq_some_iff.1 hn).1
  · intro h
    exact ⟨_, Mock.routeScore_eq_some_iff.2 ⟨h, rfl⟩⟩

/-- **When the request of a call is one for the route of its own endpoint.** With values that stay
within their segments it always is, whatever the values in the query. In general the slashes that
are seen in the values balance those of the names and of the literal text that is lost behind a
question mark; where neither of the two has one, the template takes the path. The request is that of
`Function.send`, which looks names up and compares them by their text, the mark `r#` included:
identifiers that differ by the mark alone, as `scopes_differ_iff` has them, count as two here. -/
theorem Sdk.routeScore_send (lib : Library α) (graph : Graph) (endpoint : Endpoint)
    (args : Arguments α) (hrequired : ∀ field ∈ endpoint.pathParams, field.required = true)
    (hfit : args.Fit graph endpoint)
    (hfree : endpoint.queryParams ≠ [] → "append_query" ∉ paramIdents endpoint)
    (hmark : '?' ∉ endpoint.route.toList) :
    ∃ request, (methodOf graph endpoint).send lib args.toList = some request ∧
      let takes := (Mock.routeScore endpoint.route (Mock.bare request.path)).isSome = true
      let fill := segmentWireText lib graph (endpoint.pathParams.zip args.path)
      let seen := seenText fill (segments endpoint.route)
      let lost := lostText fill (segments endpoint.route)
      let names := nameText (segments endpoint.route)
      ((∀ name ∈ placeholders endpoint.route,
        '/' ∉ name.toList ∧ Samples.OneSegment (fill (.param name))) → takes) ∧
      ('/' ∉ names → '/' ∉ lost → (takes ↔ '/' ∉ seen)) ∧
      ('/' ∉ seen → (takes ↔ '/' ∉ names ∧ '/' ∉ lost)) ∧
      (takes → seen.count '/' = lost.count '/' + names.count '/') := by
  refine ⟨described lib graph endpoint args, send_eq_described graph hrequired hfit hfree, ?_⟩
  intro takes fill seen lost names
  have hliteral (text : String) : fill (.literal text) = text := rfl
  -- One count carries the statement: every slash that the mock sees in excess is one that was lost,
  -- or one that stands in a placeholder's name.
  have hcount (h : takes) : seen.count '/' = lost.count '/' + names.count '/' :=
    count_seenText_of_matches hliteral hmark (isSome_routeScore.1 h)
  -- With no slash anywhere in the three, the cut path falls into the template's segments.
  have htakes (hnames : '/' ∉ names) (hlost : '/' ∉ lost) (hseen : '/' ∉ seen) : takes :=
    isSome_routeScore.2 (matches_cut hliteral (not_mem_literalText hmark) _ hnames hlost hseen)
  refine ⟨fun hfill => isSome_routeScore.2 (matches_kept hliteral (not_mem_literalText hmark) _
      hfill), fun hnames hlost => ⟨fun h => ?_, htakes hnames hlost⟩,
    fun hseen => ⟨fun h => ?_, fun hfree => htakes hfree.1 hfree.2 hseen⟩, hcount⟩
  · rw [← List.count_eq_zero, hcount h, List.count_eq_zero.2 hnames, List.count_eq_zero.2 hlost]
  · have hsum := hcount h
    rw [List.count_eq_zero.2 hseen] at hsum
    constructor
    · rw [← List.count_eq_zero]
      omega
    · rw [← List.count_eq_zero]
      omega

end Send

/-! ## Three shops -/

/-- The arguments for the items of a shop, with no limit or with one. -/
def shopArguments (shop : String) (limit : Option String) : Arguments String :=
  ⟨[.text shop], [.option (limit.map .shown)], none⟩

/-- The arguments fit the method. -/
theorem fit_shopArguments (shop : String) (limit : Option String) :
    (shopArguments shop limit).Fit .empty shopItems where
  path := .cons (.text shop) .nil
  query := by
    refine .cons ⟨_, rfl, fun v hv => ?_⟩ .nil
    obtain ⟨text, -, rfl⟩ := Option.map_eq_some_iff.1 hv
    exact .display text
  body := rfl

/-- The path parameter is required. -/
theorem required_shopItems : ∀ field ∈ shopItems.pathParams, field.required = true := by decide

/-- No parameter has the name of the function that the body calls. -/
theorem free_shopItems :
    shopItems.queryParams ≠ [] → "append_query" ∉ paramIdents shopItems := by decide +kernel

/-- The request for the items of a shop. -/
theorem send_shopItems (shop : String) (limit : Option String) :
    (methodOf .empty shopItems).send plainLibrary (shopArguments shop limit).toList =
      some (described plainLibrary .empty shopItems (shopArguments shop limit)) :=
  send_eq_described .empty required_shopItems (fit_shopArguments shop limit) free_shopItems

/-- A name of one segment, with a limit in the query; and one with a question mark, of which the
slash of the route behind it is lost. -/
theorem Sdk.routeScore_send_shop :
    (∃ request, (methodOf .empty shopItems).send plainLibrary
        [.text "a", .option (some (.shown "5/?"))] = some request ∧
      request.path = "/shops/a/items?limit=5%2F%3F" ∧
      (Mock.routeScore shopItems.route (Mock.bare request.path)).isSome = true) ∧
    ∃ request, (methodOf .empty shopItems).send plainLibrary [.text "a?b", .option none] =
        some request ∧
      request.path = "/shops/a?b/items" ∧
      ¬ (Mock.routeScore shopItems.route (Mock.bare request.path)).isSome = true := by
  have hmark : '?' ∉ shopItems.route.toList := by decide
  constructor
  · obtain ⟨request, hsend, htakes, -⟩ := Sdk.routeScore_send plainLibrary .empty shopItems
      (shopArguments "a" (some "5/?")) required_shopItems (fit_shopArguments _ _) free_shopItems
      hmark
    obtain rfl := Option.some.inj (hsend.symm.trans (send_shopItems _ _))
    exact ⟨_, hsend, by decide +kernel, htakes (by decide +kernel)⟩
  · obtain ⟨request, hsend, -, -, htakes, -⟩ := Sdk.routeScore_send plainLibrary .empty shopItems
      (shopArguments "a?b" none) required_shopItems (fit_shopArguments _ _) free_shopItems hmark
    obtain rfl := Option.some.inj (hsend.symm.trans (send_shopItems _ _))
    refine ⟨_, hsend, by decide +kernel, fun h => ?_⟩
    exact absurd ((htakes (by decide +kernel)).1 h).2 (by decide +kernel)

/-- A name with a slash makes a path of another route. -/
theorem Sdk.routeScore_send_slash :
    shopItems.Bound ∧ '?' ∉ shopItems.route.toList ∧
    ∃ request, (methodOf .empty shopItems).send plainLibrary [.text "a/b", .option none] =
        some request ∧
      request.path = "/shops/a/b/items" ∧
      Mock.routeScore shopItems.route (Mock.bare request.path) = none :=
  ⟨by decide +kernel, by decide, _, send_shopItems "a/b" none, by decide +kernel,
    by decide +kernel⟩

end ClientForge
