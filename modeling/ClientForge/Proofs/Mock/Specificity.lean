/-
  The most specific template answers.

  Of two templates that take a path the one with more literal segments is the more specific.  The
  stand-in is meant to answer with the most specific one, and with a route that is the path itself
  before any other; and that should not depend on how the table is ordered.

  A template that takes a path has as many segments as the path, so it scores at most that number.  It
  scores exactly that number only if no segment of it has a placeholder, and then it is the path itself
  (`eq_of_length_le_literals`).  A route without placeholders that is the path therefore outscores
  every other template, and where in the table it stands makes no difference (`lookup_exact`).

  For all else the answer is one of the best, which is what the search keeps (`best_of_lookup_eq_some`).
  Which of several equally good ones it is does depend on the order of the table, so nothing more can
  be said of them here.  What has to be assumed is that no two fixtures of the table are for one route
  and method (`Apart`); with two of them neither would outscore the other.
-/
import Mathlib.Data.List.Nodup
import ClientForge.Proofs.Mock.Lookup

namespace ClientForge.Client.Mock

open ClientForge.Text

/-! ## Scores and segments -/

/-- `AllLiteral route` — no segment of the route has a placeholder. -/
def AllLiteral (route : String) : Prop :=
  ∀ segment ∈ split '/' route.toList, hasPlaceholder segment = false

/-- Whether a route has no placeholder can be computed. -/
instance (route : String) : Decidable (AllLiteral route) :=
  inferInstanceAs (Decidable (∀ segment ∈ split '/' route.toList, hasPlaceholder segment = false))

section Scores

variable {route path : String}

/-- A route without placeholders scores as many as it has segments. -/
theorem literals_of_allLiteral (h : AllLiteral route) :
    literals route = (split '/' route.toList).length := by
  rw [literals, List.countP_eq_length]
  intro segment hmem
  rw [h segment hmem]
  rfl

/-- A route that scores as many as it has segments has no placeholder. -/
theorem allLiteral_of_length_le (h : (split '/' route.toList).length ≤ literals route) :
    AllLiteral route := by
  have hall := List.countP_eq_length.1 (Nat.le_antisymm List.countP_le_length h)
  intro segment hmem
  simpa using hall segment hmem

/-- A template takes its own text. -/
theorem matches_self (route : String) : Matches route route :=
  List.forall₂_same.2 fun _ _ => Or.inr rfl

/-- A template without placeholders takes nothing but its own text. -/
theorem eq_of_matches_of_allLiteral (h : Matches route path) (hliteral : AllLiteral route) :
    route = path := by
  have hsame : List.Forall₂ (· = ·) (split '/' route.toList) (split '/' path.toList) := by
    rw [List.forall₂_iff_zip]
    refine ⟨h.length_eq, fun {template segment} hmem => ?_⟩
    rcases (List.forall₂_iff_zip.1 h).2 hmem with hhole | heq
    · rw [hliteral template (List.of_mem_zip hmem).1] at hhole
      cases hhole
    · exact heq
  rw [List.forall₂_eq_eq_eq] at hsame
  rw [← String.toList_inj, ← join_split '/' route.toList, hsame, join_split]

/-- **Only the path itself scores as much as the path has segments.** -/
theorem eq_of_length_le_literals (h : Matches route path)
    (hscore : (split '/' path.toList).length ≤ literals route) : route = path := by
  -- the template has as many segments as the path, so each of them is literal
  rw [← h.length_eq] at hscore
  exact eq_of_matches_of_allLiteral h (allLiteral_of_length_le hscore)

end Scores

/-! ## The answer and the order of the table -/

section Answer

variable {table : List Canned} {method path : String} {canned : Canned}

/-- **There is no answer** exactly if nothing fits. -/
theorem lookup_eq_none_iff :
    lookup table method path = none ↔ ∀ canned ∈ table, ¬ Fits method path canned := by
  rw [lookup_eq, Option.map_eq_none_iff]
  have hbest : best (table.filterMap (candidate? method path)) = none ↔
      table.filterMap (candidate? method path) = [] := by
    rcases best_spec (table.filterMap (candidate? method path)) with
      ⟨hempty, hnone⟩ | ⟨before, kept, after, hkept, hsplit, -⟩
    · exact iff_of_true hnone hempty
    · exact iff_of_false (by simp [hkept]) (by simp [hsplit])
  rw [hbest, List.filterMap_eq_nil_iff]
  refine forall₂_congr fun canned _ => ?_
  rw [Option.eq_none_iff_forall_ne_some]
  constructor
  · intro hnone hfits
    exact hnone _ (candidate?_eq_some_iff.2 ⟨hfits, rfl⟩)
  · intro hnot found hfound
    exact hnot (candidate?_eq_some_iff.1 hfound).1

/-- What answers is in the table, fits, and nothing that fits scores more. -/
theorem best_of_lookup_eq_some (h : lookup table method path = some canned) :
    canned ∈ table ∧ Fits method path canned ∧
      ∀ other ∈ table, Fits method path other → literals other.route ≤ literals canned.route := by
  obtain ⟨before, after, rfl, hfits, hbefore, hafter⟩ := lookup_eq_some_iff.1 h
  refine ⟨List.mem_append_right _ List.mem_cons_self, hfits, fun other hmem hother => ?_⟩
  rcases List.mem_append.1 hmem with hmem | hmem
  · exact hbefore other hmem hother
  · rcases List.mem_cons.1 hmem with rfl | hmem
    · exact Nat.le_refl _
    · exact Nat.le_of_lt (hafter other hmem hother)

/-- What outscores everything else that fits is the answer. -/
theorem lookup_eq_some_of_lt (hmem : canned ∈ table) (hfits : Fits method path canned)
    (hbest : ∀ other ∈ table, other ≠ canned → Fits method path other →
      literals other.route < literals canned.route) :
    lookup table method path = some canned := by
  cases hlookup : lookup table method path with
  | none => exact absurd hfits (lookup_eq_none_iff.1 hlookup canned hmem)
  | some found =>
    obtain ⟨hfound, hfit, hmost⟩ := best_of_lookup_eq_some hlookup
    by_cases heq : found = canned
    · rw [heq]
    · exact absurd (hbest found hfound heq hfit) (Nat.not_lt.2 (hmost canned hmem hfits))

end Answer

/-- `Apart table` — no two fixtures of the table are for the same route and method. -/
def Apart (table : List Canned) : Prop :=
  (table.map fun canned => (canned.route, canned.method)).Nodup

instance (table : List Canned) : Decidable (Apart table) :=
  inferInstanceAs (Decidable (List.Nodup _))

/-- **A route that is the path answers,** wherever it stands in the table. -/
theorem lookup_exact {table : List Canned} {method path : String} {canned : Canned}
    (hapart : Apart table) (hmem : canned ∈ table) (hmethod : canned.method = method)
    (hroute : canned.route = bare path) (hliteral : AllLiteral canned.route) :
    lookup table method path = some canned := by
  have hfits : Fits method path canned := ⟨hmethod, hroute ▸ matches_self canned.route⟩
  refine lookup_eq_some_of_lt hmem hfits fun other hother hne hfit => ?_
  rw [literals_of_allLiteral hliteral, hroute, ← Nat.not_le]
  intro hscore
  -- one that scores as much would be a second fixture for the route and the method
  have hsame : other.route = canned.route :=
    (eq_of_length_le_literals hfit.route hscore).trans hroute.symm
  have hkey : (other.route, other.method) = (canned.route, canned.method) := by
    rw [hsame, hfit.method, hmethod]
  exact hne (List.inj_on_of_nodup_map hapart hother hmem hkey)

/-- **The most specific template answers.**  There is no answer exactly if nothing fits; what
answers has the most literal segments of all that fit; and a fixture whose route is the path and has
no placeholder answers in whatever order the table is. -/
theorem lookup_mostSpecific (table : List Canned) (hapart : Apart table) (method path : String) :
    (lookup table method path = none ↔ ∀ canned ∈ table, ¬ Fits method path canned) ∧
    (∀ canned, lookup table method path = some canned →
      canned ∈ table ∧ Fits method path canned ∧
        ∀ other ∈ table, Fits method path other → literals other.route ≤ literals canned.route) ∧
    ∀ canned ∈ table, canned.method = method → canned.route = bare path →
      AllLiteral canned.route →
      ∀ reordered, reordered.Perm table → lookup reordered method path = some canned := by
  refine ⟨lookup_eq_none_iff, fun canned => best_of_lookup_eq_some, ?_⟩
  intro canned hmem hmethod hroute hliteral reordered hperm
  have hapart' : Apart reordered := (hperm.map _).nodup_iff.2 hapart
  exact lookup_exact hapart' (hperm.mem_iff.2 hmem) hmethod hroute hliteral

/-- The search for projects. -/
def projectSearch : Canned :=
  { route := "/projects/search", method := "GET", status := 200, body := "[]" }

/-- A project by its id. -/
def projectById : Canned :=
  { route := "/projects/\x7bid\x7d", method := "GET", status := 200, body := "\x7b\x7d" }

/-- Anything by its kind and its id. -/
def thingById : Canned :=
  { route := "/\x7bkind\x7d/\x7bid\x7d", method := "GET", status := 200, body := "null" }

/-- The search answers its own path in whatever order the table is; a project comes before a thing,
whose template takes its path as well; and there is no answer where nothing is for the method. -/
theorem lookup_mostSpecific_projects :
    let projects := [projectSearch, projectById, thingById]
    Apart projects ∧
    (∀ reordered, reordered.Perm projects →
      lookup reordered "GET" "/projects/search?limit=1" = some projectSearch) ∧
    (lookup projects "GET" "/projects/p9" = some projectById ∧
      Fits "GET" "/projects/p9" thingById ∧
      literals thingById.route ≤ literals projectById.route) ∧
    lookup projects "POST" "/projects/p9" = none := by
  intro projects
  have hapart : Apart projects := by decide
  obtain ⟨-, -, hexact⟩ := lookup_mostSpecific projects hapart "GET" "/projects/search?limit=1"
  obtain ⟨-, hmost, -⟩ := lookup_mostSpecific projects hapart "GET" "/projects/p9"
  obtain ⟨hnone, -, -⟩ := lookup_mostSpecific projects hapart "POST" "/projects/p9"
  have hmethod : ∀ canned ∈ projects, canned.method ≠ "POST" := by decide
  have hproject : lookup projects "GET" "/projects/p9" = some projectById := by decide +kernel
  have hthing : Fits "GET" "/projects/p9" thingById :=
    ⟨rfl, (routeScore_eq_some_iff (n := 1)).1 (by decide +kernel) |>.1⟩
  refine ⟨hapart, ?_, ⟨hproject, hthing, ?_⟩, ?_⟩
  · exact hexact projectSearch List.mem_cons_self rfl (by decide +kernel) (by decide +kernel)
  · exact (hmost projectById hproject).2.2 thingById (by decide) hthing
  · exact hnone.2 fun canned hmem hfits => hmethod canned hmem hfits.method

end ClientForge.Client.Mock
