/-
  What stands in the table of fixtures, and in which order.

  Fixtures are put in one by one, each in the place of an earlier one for the same route and method.
  The table that they are collected in has a row for each route, and the row is ordered by method; the
  fixtures of a run are the rows one behind the other, in the order of the routes.

  The two levels are dealt with one after the other.  In a row, putting in a fixture replaces that of
  its method (`mem_insertByMethod`), and the row stays ordered.  In the collection, it replaces that of
  its route and method (`holds_insertFixture`).  From then on the rows are forgotten: whatever was put
  in last for a route and method stays (`holds_foldl`), so that

  * the table holds, for each route and method, the fixture of the last endpoint that is not excluded
    (`mem_fixtures_iff`);
  * it is ordered by route and then by method (`fixtures_pairwise`), so no two of its fixtures are for
    the same route and method (`eq_of_sameKey`).

  The order matters for what answers a request: of several equally good candidates the last of the
  table answers, and in a table in this order that is the one with the greatest route
  (`lookup_cannedTable_iff`).  So the answer can be told by routes alone, without mention of places in
  a table.
-/
import Mathlib.Data.List.Pairwise
import ClientForge.Proofs.Graph.Lookup
import ClientForge.Proofs.Mock.Lookup
import ClientForge.Sdk.Fixture

namespace ClientForge

/-- Different methods have different ranks. -/
theorem Method.rank_injective {first second : Method} (h : first.rank = second.rank) :
    first = second := by
  cases first <;> cases second <;> first | rfl | cases h

/-- Different methods have different names. -/
theorem Method.name_injective {first second : Method} (h : first.name = second.name) :
    first = second := by
  revert h
  cases first <;> cases second <;> decide

namespace Sdk

open ClientForge.Client

/-! ## Fixtures in their order -/

namespace Fixture

/-- The two are for the same route and method. -/
def SameKey (first second : Fixture) : Prop :=
  first.route = second.route ∧ first.method = second.method

/-- The order of the table: by route, then by method. -/
def Before (first second : Fixture) : Prop :=
  first.route < second.route ∨
    (first.route = second.route ∧ first.method.rank < second.method.rank)

/-- To be for different routes or methods is symmetric. -/
instance : Std.Symm fun first second : Fixture => ¬ first.SameKey second where
  symm _ _ hne hsame := hne ⟨hsame.1.symm, hsame.2.symm⟩

/-- Of two fixtures in order each is for another route or method. -/
theorem Before.not_sameKey {first second : Fixture} (h : first.Before second) :
    ¬ first.SameKey second := by
  rintro ⟨hroute, hmethod⟩
  rcases h with h | ⟨-, h⟩
  · rw [hroute] at h
    exact String.lt_irrefl _ h
  · rw [hmethod] at h
    exact Nat.lt_irrefl _ h

/-- The fixture as it stands in the table that the stand-in answers from. -/
def canned (fixture : Fixture) : Canned where
  route := fixture.route
  method := fixture.method.name
  status := fixture.status
  body := fixture.body

/-- Nothing of a fixture is lost in the table that answers. -/
theorem canned_injective {first second : Fixture} (h : first.canned = second.canned) :
    first = second := by
  cases first
  cases second
  simp only [canned, Canned.mk.injEq] at h
  obtain ⟨rfl, hmethod, rfl, rfl⟩ := h
  rw [Method.name_injective hmethod]

end Fixture

/-! ## One fixture more -/

/-- The fixtures of a route, ordered by method. -/
def ByMethod (row : List Fixture) : Prop :=
  row.Pairwise fun first second => first.method.rank < second.method.rank

section Row

variable {fixture other : Fixture} {row : List Fixture}

/-- **What putting in a fixture does:** it replaces that of its method. -/
theorem mem_insertByMethod (hrow : ByMethod row) :
    other ∈ insertByMethod fixture row ↔
      other = fixture ∨ (other ∈ row ∧ other.method ≠ fixture.method) := by
  induction row with
  | nil => simp [insertByMethod]
  | cons first rest ih =>
    obtain ⟨hfirst, hrest⟩ := List.pairwise_cons.1 hrow
    rw [insertByMethod]
    by_cases hlt : fixture.method.rank < first.method.rank
    · -- all of the row comes later, so nothing is replaced
      have hkept : other ∈ first :: rest → other.method ≠ fixture.method := by
        intro hmem heq
        rw [← heq] at hlt
        rcases List.mem_cons.1 hmem with rfl | hmem
        · exact Nat.lt_irrefl _ hlt
        · exact Nat.lt_asymm hlt (hfirst other hmem)
      rw [if_pos hlt, List.mem_cons]
      exact or_congr_right ⟨fun hmem => ⟨hmem, hkept hmem⟩, And.left⟩
    · rw [if_neg hlt]
      by_cases heq : fixture.method = first.method
      · have hkept : other ∈ rest → other.method ≠ fixture.method := by
          intro hmem hsame
          have hlater := hfirst other hmem
          rw [hsame, heq] at hlater
          exact Nat.lt_irrefl _ hlater
        rw [if_pos heq, List.mem_cons, List.mem_cons]
        constructor
        · rintro (rfl | hmem)
          · exact Or.inl rfl
          · exact Or.inr ⟨Or.inr hmem, hkept hmem⟩
        · rintro (rfl | ⟨rfl | hmem, hne⟩)
          · exact Or.inl rfl
          · exact absurd heq.symm hne
          · exact Or.inr hmem
      · rw [if_neg heq, List.mem_cons, List.mem_cons, ih hrest]
        constructor
        · rintro (rfl | rfl | ⟨hmem, hne⟩)
          · exact Or.inr ⟨Or.inl rfl, Ne.symm heq⟩
          · exact Or.inl rfl
          · exact Or.inr ⟨Or.inr hmem, hne⟩
        · rintro (rfl | ⟨rfl | hmem, hne⟩)
          · exact Or.inr (Or.inl rfl)
          · exact Or.inl rfl
          · exact Or.inr (Or.inr ⟨hmem, hne⟩)

/-- The row stays ordered. -/
theorem byMethod_insertByMethod (hrow : ByMethod row) : ByMethod (insertByMethod fixture row) := by
  induction row with
  | nil => exact List.pairwise_singleton ..
  | cons first rest ih =>
    obtain ⟨hfirst, hrest⟩ := List.pairwise_cons.1 hrow
    rw [insertByMethod]
    by_cases hlt : fixture.method.rank < first.method.rank
    · rw [if_pos hlt]
      refine List.pairwise_cons.2 ⟨fun other hmem => ?_, hrow⟩
      rcases List.mem_cons.1 hmem with rfl | hmem
      · exact hlt
      · exact Nat.lt_trans hlt (hfirst other hmem)
    · rw [if_neg hlt]
      by_cases heq : fixture.method = first.method
      · rw [if_pos heq]
        exact List.pairwise_cons.2 ⟨fun other hmem => heq ▸ hfirst other hmem, hrest⟩
      · rw [if_neg heq]
        refine List.pairwise_cons.2 ⟨fun other hmem => ?_, ih hrest⟩
        rcases (mem_insertByMethod hrest).1 hmem with rfl | ⟨hmem, -⟩
        · have hne : other.method.rank ≠ first.method.rank :=
            fun hrank => heq (Method.rank_injective hrank)
          omega
        · exact hfirst other hmem

end Row

/-! ## Fixtures by route -/

/-- Under each route stand fixtures for that route, ordered by method. -/
structure ByRoute (byRoute : Table (List Fixture)) : Prop where
  route : ∀ route row, byRoute.get? route = some row → ∀ fixture ∈ row, fixture.route = route
  method : ∀ route row, byRoute.get? route = some row → ByMethod row

/-- The fixture stands under its route. -/
def Holds (byRoute : Table (List Fixture)) (fixture : Fixture) : Prop :=
  ∃ row, byRoute.get? fixture.route = some row ∧ fixture ∈ row

section Insertion

variable {byRoute : Table (List Fixture)} {fixture other : Fixture}

/-- The row of a route is ordered, an empty one too. -/
theorem ByRoute.byMethod (h : ByRoute byRoute) (route : String) :
    ByMethod ((byRoute.get? route).getD []) := by
  cases hrow : byRoute.get? route with
  | none => exact List.Pairwise.nil
  | some row => exact h.method route row hrow

/-- What stands under the routes after putting in a fixture. -/
theorem get?_insertFixture (route : String) :
    (insertFixture byRoute fixture).get? route =
      if route = fixture.route then
        some (insertByMethod fixture ((byRoute.get? fixture.route).getD []))
      else byRoute.get? route :=
  Table.get?_insert ..

/-- Under each route there are fixtures for that route, after one more is put in. -/
theorem ByRoute.insertFixture (h : ByRoute byRoute) :
    ByRoute (insertFixture byRoute fixture) where
  route route row hrow other hmem := by
    rw [get?_insertFixture] at hrow
    -- The row of the fixture's own route is the one that changes; in it the fixture itself, or what
    -- the row held before.
    split at hrow
    · rename_i hroute
      cases hrow
      rw [hroute]
      rcases (mem_insertByMethod (h.byMethod _)).1 hmem with rfl | ⟨hmem, -⟩
      · rfl
      · cases hheld : byRoute.get? fixture.route with
        | none =>
          rw [hheld] at hmem
          cases hmem
        | some held =>
          rw [hheld] at hmem
          exact h.route _ held hheld other hmem
    · exact h.route route row hrow other hmem
  method route row hrow := by
    rw [get?_insertFixture] at hrow
    split at hrow
    · cases hrow
      exact byMethod_insertByMethod (h.byMethod _)
    · exact h.method route row hrow

/-- A fixture stands under its route if it is in the row there. -/
theorem holds_iff_mem : Holds byRoute fixture ↔
    fixture ∈ (byRoute.get? fixture.route).getD [] := by
  unfold Holds
  cases byRoute.get? fixture.route <;> simp

/-- **What putting in a fixture does:** it replaces that of its route and method. -/
theorem holds_insertFixture (h : ByRoute byRoute) :
    Holds (insertFixture byRoute fixture) other ↔
      other = fixture ∨ (Holds byRoute other ∧ ¬ fixture.SameKey other) := by
  rw [holds_iff_mem, holds_iff_mem, get?_insertFixture]
  by_cases hroute : other.route = fixture.route
  · rw [if_pos hroute, Option.getD_some, mem_insertByMethod (h.byMethod _), hroute]
    simp only [Fixture.SameKey, hroute, true_and, ne_comm, ne_eq]
  · have hne : other ≠ fixture := fun heq => hroute (heq ▸ rfl)
    simp [if_neg hroute, Fixture.SameKey, Ne.symm hroute, hne]

end Insertion

/-! ## The table -/

/-- The fixture is the last of the row for its route and method. -/
def LastOf (fixture : Fixture) (row : List Fixture) : Prop :=
  ∃ before after, row = before ++ fixture :: after ∧ ∀ other ∈ after, ¬ other.SameKey fixture

section Folding

variable {byRoute : Table (List Fixture)} {row : List Fixture} {fixture : Fixture}

/-- The last for a route and method, with one more in front: it is the last of the rest, or the
first where the rest has none. -/
theorem lastOf_cons {first : Fixture} : LastOf fixture (first :: row) ↔
    LastOf fixture row ∨ (fixture = first ∧ ∀ other ∈ row, ¬ other.SameKey fixture) := by
  constructor
  · rintro ⟨before, after, hsplit, hafter⟩
    cases before with
    | nil =>
      cases hsplit
      exact Or.inr ⟨rfl, hafter⟩
    | cons head before =>
      cases hsplit
      exact Or.inl ⟨before, after, rfl, hafter⟩
  · rintro (⟨before, after, rfl, hafter⟩ | ⟨rfl, hafter⟩)
    · exact ⟨first :: before, after, rfl, hafter⟩
    · exact ⟨[], row, rfl, hafter⟩

/-- In a row without two for one route and method every fixture is the last one. -/
theorem lastOf_iff_mem (h : row.Pairwise fun first second => ¬ first.SameKey second) :
    LastOf fixture row ↔ fixture ∈ row := by
  constructor
  · rintro ⟨before, after, rfl, -⟩
    exact List.mem_append_right _ List.mem_cons_self
  · intro hmem
    obtain ⟨before, after, rfl⟩ := List.append_of_mem hmem
    refine ⟨before, after, rfl, fun other hother hsame => ?_⟩
    have hlater := (List.pairwise_cons.1 (List.pairwise_append.1 h).2.1).1 other hother
    exact hlater ⟨hsame.1.symm, hsame.2.symm⟩

/-- The same after any number of fixtures. -/
theorem byRoute_foldl (h : ByRoute byRoute) : ByRoute (row.foldl insertFixture byRoute) := by
  induction row generalizing byRoute with
  | nil => exact h
  | cons first rest ih => exact ih h.insertFixture

/-- Of several for one route and method the last stays. -/
theorem holds_foldl (h : ByRoute byRoute) :
    Holds (row.foldl insertFixture byRoute) fixture ↔
      LastOf fixture row ∨ (Holds byRoute fixture ∧ ∀ other ∈ row, ¬ other.SameKey fixture) := by
  induction row generalizing byRoute with
  | nil => simp [LastOf]
  | cons first rest ih =>
    rw [List.foldl_cons, ih h.insertFixture, holds_insertFixture h, lastOf_cons,
      List.forall_mem_cons, or_and_right, or_assoc, and_assoc]

end Folding

/-- The endpoints that get a fixture. -/
def keptEndpoints (config : Config) (endpoints : List Endpoint) : List Endpoint :=
  endpoints.filter fun endpoint => !config.skips endpoint.route

/-- The fixtures of a run by their routes. -/
def fixturesByRoute (config : Config) (endpoints : List Endpoint) : Table (List Fixture) :=
  ((keptEndpoints config endpoints).map (fixtureOf config)).foldl insertFixture .empty

section Fixtures

variable {config : Config} {endpoints : List Endpoint} {fixture other : Fixture}

/-- Under no route there is nothing to go wrong. -/
theorem byRoute_empty : ByRoute .empty where
  route _ _ hrow := by cases hrow
  method _ _ hrow := by cases hrow

/-- The fixtures of a run stand under their routes. -/
theorem byRoute_fixtures (config : Config) (endpoints : List Endpoint) :
    ByRoute (fixturesByRoute config endpoints) :=
  byRoute_foldl byRoute_empty

/-- The fixtures of a run are those that stand under their routes. -/
theorem mem_fixtures_iff_holds :
    fixture ∈ fixtures config endpoints ↔ Holds (fixturesByRoute config endpoints) fixture := by
  show fixture ∈ (fixturesByRoute config endpoints).values.flatten ↔ _
  rw [List.mem_flatten]
  constructor
  · rintro ⟨row, hrow, hmem⟩
    obtain ⟨⟨route, _⟩, hentry, rfl⟩ := List.mem_map.1 hrow
    have hget := Table.get?_eq_some_iff.2 hentry
    have hroute := (byRoute_fixtures config endpoints).route route _ hget fixture hmem
    exact ⟨_, hroute ▸ hget, hmem⟩
  · rintro ⟨row, hget, hmem⟩
    exact ⟨row, Table.mem_values_of_get? hget, hmem⟩

/-- **What is in the table:** for each route and method the fixture of the last endpoint that is not
excluded. -/
theorem mem_fixtures_iff : fixture ∈ fixtures config endpoints ↔
    LastOf fixture ((keptEndpoints config endpoints).map (fixtureOf config)) := by
  rw [mem_fixtures_iff_holds, fixturesByRoute, holds_foldl byRoute_empty]
  refine or_iff_left ?_
  rintro ⟨⟨row, hrow, -⟩, -⟩
  cases hrow

/-- Where no two endpoints have one route and method, each that is not excluded has its fixture. -/
theorem mem_fixtures_of_distinct (h : endpoints.Pairwise fun first second =>
      ¬ (first.route = second.route ∧ first.method = second.method)) :
    fixture ∈ fixtures config endpoints ↔
      ∃ endpoint ∈ endpoints, config.skips endpoint.route = false ∧
        fixtureOf config endpoint = fixture := by
  have hdistinct : ((keptEndpoints config endpoints).map (fixtureOf config)).Pairwise
      fun first second => ¬ first.SameKey second := List.pairwise_map.2 (h.filter _)
  rw [mem_fixtures_iff, lastOf_iff_mem hdistinct]
  simp only [keptEndpoints, List.mem_map, List.mem_filter, Bool.not_eq_true', and_assoc]

/-- **The table is in order.** -/
theorem fixtures_pairwise (config : Config) (endpoints : List Endpoint) :
    (fixtures config endpoints).Pairwise Fixture.Before := by
  have hby := byRoute_fixtures config endpoints
  show (fixturesByRoute config endpoints).values.flatten.Pairwise Fixture.Before
  refine List.pairwise_flatten.2 ⟨fun row hrow => ?_, List.pairwise_map.2 ?_⟩
  · obtain ⟨⟨route, _⟩, hentry, rfl⟩ := List.mem_map.1 hrow
    have hget := Table.get?_eq_some_iff.2 hentry
    refine (hby.method route _ hget).imp_of_mem fun hfirst hsecond hrank => Or.inr ⟨?_, hrank⟩
    rw [hby.route route _ hget _ hfirst, hby.route route _ hget _ hsecond]
  · refine (fixturesByRoute config endpoints).sorted.imp_of_mem ?_
    intro entry later hentry hlater hlt first hfirst second hsecond
    rw [Fixture.Before, hby.route _ _ (Table.get?_eq_some_iff.2 hentry) first hfirst,
      hby.route _ _ (Table.get?_eq_some_iff.2 hlater) second hsecond]
    exact Or.inl hlt

/-- No two fixtures of the table are for the same route and method. -/
theorem eq_of_sameKey (hfixture : fixture ∈ fixtures config endpoints)
    (hother : other ∈ fixtures config endpoints) (h : fixture.SameKey other) : fixture = other := by
  by_contra hne
  have hdistinct : (fixtures config endpoints).Pairwise fun first second =>
      ¬ first.SameKey second := (fixtures_pairwise config endpoints).imp Fixture.Before.not_sameKey
  exact hdistinct.forall hfixture hother hne h

/-! ## Answers from the table -/

/-- The table that the stand-in answers from. -/
def cannedTable (config : Config) (endpoints : List Endpoint) : List Canned :=
  (fixtures config endpoints).map Fixture.canned

/-- **The body for a route and a method** is that of the fixture for them. -/
theorem bodyOf_cannedTable (h : fixture ∈ fixtures config endpoints) :
    Mock.bodyOf (cannedTable config endpoints) fixture.route fixture.method.name =
      fixture.body := by
  have hfind : ((fixtures config endpoints).find? fun other =>
      other.route == fixture.route && other.method.name == fixture.method.name) = some fixture := by
    cases hfind : (fixtures config endpoints).find? fun other =>
        other.route == fixture.route && other.method.name == fixture.method.name with
    | none =>
      have hnone := List.find?_eq_none.1 hfind fixture h
      simp at hnone
    | some other =>
      have hkey := List.find?_some hfind
      rw [Bool.and_eq_true, beq_iff_eq, beq_iff_eq] at hkey
      rw [eq_of_sameKey (List.mem_of_find?_eq_some hfind) h
        ⟨hkey.1, Method.name_injective hkey.2⟩]
  rw [Mock.bodyOf, cannedTable, List.find?_map]
  simp only [Function.comp_def, Fixture.canned, hfind, Option.map_some]

/-- The fixture that answers scores at least as much as those before it in the table that take the
path, and more than those behind it. -/
theorem lookup_cannedTable_eq_some_iff {method path : String} :
    Mock.lookup (cannedTable config endpoints) method path = some fixture.canned ↔
      ∃ before after, fixtures config endpoints = before ++ fixture :: after ∧
        Mock.Fits method path fixture.canned ∧
        (∀ other ∈ before, Mock.Fits method path other.canned →
          Mock.literals other.route ≤ Mock.literals fixture.route) ∧
        ∀ other ∈ after, Mock.Fits method path other.canned →
          Mock.literals other.route < Mock.literals fixture.route := by
  rw [Mock.lookup_eq_some_iff]
  constructor
  · rintro ⟨first, last, hsplit, hfits, hbefore, hafter⟩
    -- The table is the fixtures under an injective reading, so a split of it is a split of them.
    obtain ⟨before, rest, htable, rfl, hrest⟩ := List.map_eq_append_iff.1 hsplit
    obtain ⟨found, after, rfl, hfound, rfl⟩ := List.map_eq_cons_iff.1 hrest
    obtain rfl := Fixture.canned_injective hfound
    exact ⟨before, after, htable, hfits,
      fun other hmem => hbefore other.canned (List.mem_map_of_mem hmem),
      fun other hmem => hafter other.canned (List.mem_map_of_mem hmem)⟩
  · rintro ⟨before, after, htable, hfits, hbefore, hafter⟩
    refine ⟨before.map Fixture.canned, after.map Fixture.canned, ?_, hfits, ?_, ?_⟩
    · rw [cannedTable, htable, List.map_append, List.map_cons]
    · rintro _ hmem
      obtain ⟨other, hother, rfl⟩ := List.mem_map.1 hmem
      exact hbefore other hother
    · rintro _ hmem
      obtain ⟨other, hother, rfl⟩ := List.mem_map.1 hmem
      exact hafter other hother

/-- **Which fixture of the table answers:** one that takes the path and outranks all others that
do. -/
theorem lookup_cannedTable_iff {method path : String} (h : fixture ∈ fixtures config endpoints) :
    Mock.lookup (cannedTable config endpoints) method path = some fixture.canned ↔
      Mock.Fits method path fixture.canned ∧ ∀ other ∈ fixtures config endpoints,
        other ≠ fixture → Mock.Fits method path other.canned →
          Mock.Outranks fixture.route other.route := by
  have hordered := fixtures_pairwise config endpoints
  rw [lookup_cannedTable_eq_some_iff]
  constructor
  · rintro ⟨before, after, htable, hfits, hbefore, hafter⟩
    refine ⟨hfits, fun other hother hne hothers => ?_⟩
    rw [htable] at hother hordered
    rcases List.mem_append.1 hother with hother | hother
    · have hsame : other.method = fixture.method :=
        Method.name_injective (hothers.method.trans hfits.method.symm)
      rcases Nat.lt_or_eq_of_le (hbefore other hother hothers) with hlt | heq
      · exact Or.inl hlt
      · refine Or.inr ⟨heq, ?_⟩
        -- what stands before it in the table is for a lesser route, the method being the same
        rcases (List.pairwise_append.1 hordered).2.2 other hother fixture List.mem_cons_self with
          hroute | ⟨-, hrank⟩
        · exact hroute
        · rw [hsame] at hrank
          exact absurd hrank (Nat.lt_irrefl _)
    · rcases List.mem_cons.1 hother with rfl | hother
      · exact absurd rfl hne
      · exact Or.inl (hafter other hother hothers)
  · rintro ⟨hfits, hranks⟩
    obtain ⟨before, after, htable⟩ := List.append_of_mem h
    rw [htable] at hordered
    obtain ⟨-, hlater, hcross⟩ := List.pairwise_append.1 hordered
    refine ⟨before, after, htable, hfits, fun other hother hothers => ?_,
      fun other hother hothers => ?_⟩
    · have hne : other ≠ fixture := by
        rintro rfl
        exact (hcross other hother other List.mem_cons_self).not_sameKey ⟨rfl, rfl⟩
      rcases hranks other (htable ▸ List.mem_append_left _ hother) hne hothers with hlt | ⟨heq, -⟩
      · exact Nat.le_of_lt hlt
      · exact Nat.le_of_eq heq
    · have hbefore : fixture.Before other := (List.pairwise_cons.1 hlater).1 other hother
      have hne : other ≠ fixture := by
        rintro rfl
        exact hbefore.not_sameKey ⟨rfl, rfl⟩
      have hmem := htable ▸ List.mem_append_right before (List.mem_cons_of_mem fixture hother)
      rcases hranks other hmem hne hothers with hlt | ⟨-, hroute⟩
      · exact hlt
      · -- it comes later, so its route cannot be less
        rcases hbefore with hless | ⟨heq, -⟩
        · exact absurd hroute (String.lt_asymm hless)
        · rw [heq] at hroute
          exact absurd hroute (String.lt_irrefl _)

end Fixtures

end Sdk

end ClientForge
