/-
  Which fixture answers a request.

  The stand-in looks at the method of a request and at its path up to the first question mark.  A
  template takes a path if, segment by segment, it has a placeholder or the same text (`Matches`).
  What it scores is then the number of its own literal segments, whatever the path is
  (`routeScore_eq_some_iff`): a path cannot make a template better, only fit or not.

  The candidates are gone through once, in the order of the table, and a later one wins unless it
  scores less.  So the one kept scores at least as much as all before it and more than all behind it
  (`best_eq_some_iff`).  The search runs from the front while the statement splits the row at the one
  that is kept, so the induction is from the back, one candidate more at the end
  (`best_append_singleton`, `best_spec`); that the split is unique makes it an equivalence.

  `lookup_eq_some_iff` is the same for the fixtures of a table, of which those that fit are the
  candidates.  Ties go to the later fixture, so the answer depends on the order of the table, and only
  by ties.
-/
import Mathlib.Data.List.Forall2
import Mathlib.Data.List.Induction
import ClientForge.Client.Mock

namespace ClientForge.Client.Mock

open ClientForge.Text

/-! ## Templates and paths -/

/-- Whether a segment of a template has a placeholder. -/
def hasPlaceholder (segment : List Char) : Bool := segment.contains '\x7b'

/-- `Takes template segment` — the segment of a template has a placeholder or is the same text. -/
def Takes (template segment : List Char) : Prop :=
  hasPlaceholder template = true ∨ template = segment

/-- `Matches route path` — the template takes the path, segment by segment. -/
def Matches (route path : String) : Prop :=
  List.Forall₂ Takes (split '/' route.toList) (split '/' path.toList)

/-- The number of segments of a template that have no placeholder. -/
def literals (route : String) : Nat :=
  (split '/' route.toList).countP fun segment => !hasPlaceholder segment

/-- `Outranks route other` — where both templates take a path the first one answers: it has more
literal segments, or as many and comes later in the order of texts. -/
def Outranks (route other : String) : Prop :=
  literals other < literals route ∨ (literals other = literals route ∧ other < route)

/-- A row of segments is scored if each is taken, and the score counts those without a placeholder.
-/
theorem scoreSegments_eq_some_iff {templates segments : List (List Char)} {n : Nat} :
    scoreSegments templates segments = some n ↔
      List.Forall₂ Takes templates segments ∧
        n = templates.countP fun segment => !hasPlaceholder segment := by
  -- Both rows are walked together; a row that ends first leaves no score and no row of matches.
  induction templates generalizing segments n with
  | nil => cases segments with
    | nil => simp [scoreSegments, eq_comm]
    | cons segment rest => simp [scoreSegments]
  | cons template templates ih => cases segments with
    | nil => simp [scoreSegments]
    | cons segment rest =>
      rw [List.forall₂_cons]
      cases hhole : hasPlaceholder template with
      -- A placeholder takes any segment and scores nothing.
      | true =>
        have hcontains : template.contains '\x7b' = true := hhole
        rw [scoreSegments, if_pos hcontains, ih, List.countP_cons_of_neg (by simp [hhole])]
        simp [Takes, hhole]
      | false =>
        have hcontains : ¬ template.contains '\x7b' = true := Bool.eq_false_iff.1 hhole
        rw [scoreSegments, if_neg hcontains, List.countP_cons_of_pos (by simp [hhole])]
        -- A literal takes its own text and scores one.
        by_cases heq : template = segment
        · rw [if_pos heq, Option.map_eq_some_iff]
          constructor
          · rintro ⟨m, hm, rfl⟩
            obtain ⟨htakes, rfl⟩ := ih.1 hm
            exact ⟨⟨Or.inr heq, htakes⟩, rfl⟩
          · rintro ⟨⟨-, htakes⟩, rfl⟩
            exact ⟨_, ih.2 ⟨htakes, rfl⟩, rfl⟩
        · simp [Takes, hhole, heq]

/-- **The score of a template** is the number of its literal segments, if it takes the path. -/
theorem routeScore_eq_some_iff {route path : String} {n : Nat} :
    routeScore route path = some n ↔ Matches route path ∧ n = literals route :=
  scoreSegments_eq_some_iff

/-! ## The last of the best -/

section Best

variable {table before after : List (Nat × Canned)} {kept : Nat × Canned}

/-- One candidate more. -/
def better (found : Option (Nat × Canned)) (candidate : Nat × Canned) : Option (Nat × Canned) :=
  match found with
  | some kept => if candidate.1 < kept.1 then some kept else some candidate
  | none => some candidate

/-- One candidate more at the end is compared with the one kept so far. -/
theorem best_append_singleton (candidate : Nat × Canned) :
    best (table ++ [candidate]) = better (best table) candidate := by
  rw [best, List.foldl_append]
  rfl

/-- Candidates that score less change nothing. -/
theorem best_append_of_lt (h : best before = some kept)
    (hafter : ∀ candidate ∈ after, candidate.1 < kept.1) : best (before ++ after) = some kept := by
  induction after using List.reverseRecOn with
  | nil => rwa [List.append_nil]
  | append_singleton rest last ih =>
    have hrest := ih fun candidate hmem => hafter candidate (List.mem_append_left _ hmem)
    rw [← List.append_assoc, best_append_singleton, hrest]
    exact if_pos (hafter last (List.mem_append_right _ List.mem_cons_self))

/-- Something is kept of every row that is not empty, and it scores at least as much as what came
before it and more than what came later. -/
theorem best_spec (table : List (Nat × Canned)) :
    (table = [] ∧ best table = none) ∨ ∃ before kept after,
      best table = some kept ∧ table = before ++ kept :: after ∧
      (∀ candidate ∈ before, candidate.1 ≤ kept.1) ∧ ∀ candidate ∈ after, candidate.1 < kept.1 := by
  -- The best is kept by a fold from the left, so the table is taken apart at its last entry.
  induction table using List.reverseRecOn with
  | nil => exact Or.inl ⟨rfl, rfl⟩
  | append_singleton rest last ih =>
    right
    rw [best_append_singleton]
    rcases ih with ⟨rfl, hnone⟩ | ⟨before, found, after, hfound, rfl, hbefore, hafter⟩
    · exact ⟨[], last, [], by rw [hnone]; rfl, rfl, nofun, nofun⟩
    · rw [hfound]
      -- The last entry loses only when it scores less: on a tie the later one is kept.
      by_cases hlt : last.1 < found.1
      · refine ⟨before, found, after ++ [last], if_pos hlt, by simp, hbefore, ?_⟩
        intro candidate hmem
        rcases List.mem_append.1 hmem with hmem | hmem
        · exact hafter candidate hmem
        · rw [List.mem_singleton.1 hmem]
          exact hlt
      · refine ⟨before ++ found :: after, last, [], if_neg hlt, rfl, ?_, nofun⟩
        intro candidate hmem
        have hle : candidate.1 ≤ found.1 := by
          rcases List.mem_append.1 hmem with hmem | hmem
          · exact hbefore candidate hmem
          · rcases List.mem_cons.1 hmem with rfl | hmem
            · exact Nat.le_refl _
            · exact Nat.le_of_lt (hafter candidate hmem)
        omega

/-- **What is kept of a row of candidates.** -/
theorem best_eq_some_iff : best table = some kept ↔
    ∃ before after, table = before ++ kept :: after ∧
      (∀ candidate ∈ before, candidate.1 ≤ kept.1) ∧ ∀ candidate ∈ after, candidate.1 < kept.1 := by
  constructor
  · intro h
    rcases best_spec table with ⟨-, hnone⟩ | ⟨before, found, after, hfound, hsplit⟩
    · cases hnone.symm.trans h
    · cases hfound.symm.trans h
      exact ⟨before, after, hsplit⟩
  · rintro ⟨before, after, rfl, hbefore, hafter⟩
    have hkept : best (before ++ [kept]) = some kept := by
      rw [best_append_singleton]
      rcases best_spec before with ⟨-, hnone⟩ | ⟨first, found, rest, hfound, rfl, -, -⟩
      · rw [hnone]
        rfl
      · have hle : found.1 ≤ kept.1 :=
          hbefore found (List.mem_append_right _ List.mem_cons_self)
        rw [hfound]
        exact if_neg (Nat.not_lt.2 hle)
    rw [List.append_cons]
    exact best_append_of_lt hkept hafter

end Best

/-! ## The answer for a path -/

section Lookup

variable {table : List Canned} {method path : String} {canned : Canned}

/-- What a fixture is looked at for: its score, if it is for the method and takes the path. -/
def candidate? (method path : String) (canned : Canned) : Option (Nat × Canned) :=
  if canned.method == method then
    (routeScore canned.route (bare path)).map fun score => (score, canned)
  else none

/-- The fixture is for the method, and its template takes the path. -/
structure Fits (method path : String) (canned : Canned) : Prop where
  method : canned.method = method
  route : Matches canned.route (bare path)

/-- A fixture is a candidate if it fits, and its score is that of its template. -/
theorem candidate?_eq_some_iff {found : Nat × Canned} :
    candidate? method path canned = some found ↔
      Fits method path canned ∧ found = (literals canned.route, canned) := by
  unfold candidate?
  rw [Option.ite_none_right_eq_some, beq_iff_eq, Option.map_eq_some_iff]
  constructor
  · rintro ⟨hmethod, score, hscore, rfl⟩
    obtain ⟨hmatches, rfl⟩ := routeScore_eq_some_iff.1 hscore
    exact ⟨⟨hmethod, hmatches⟩, rfl⟩
  · rintro ⟨⟨hmethod, hmatches⟩, rfl⟩
    exact ⟨hmethod, _, routeScore_eq_some_iff.2 ⟨hmatches, rfl⟩, rfl⟩

/-- Looking up keeps the best of the candidates. -/
theorem lookup_eq (table : List Canned) (method path : String) :
    lookup table method path = (best (table.filterMap (candidate? method path))).map Prod.snd := by
  unfold lookup candidate?
  dsimp only
  rw [List.filterMap_filter]

/-- **The fixture that answers** fits, scores at least as much as those before it in the table that
fit, and more than those behind it. -/
theorem lookup_eq_some_iff : lookup table method path = some canned ↔
    ∃ before after, table = before ++ canned :: after ∧ Fits method path canned ∧
      (∀ other ∈ before, Fits method path other → literals other.route ≤ literals canned.route) ∧
      ∀ other ∈ after, Fits method path other → literals other.route < literals canned.route := by
  rw [lookup_eq, Option.map_eq_some_iff]
  constructor
  · rintro ⟨⟨score, found⟩, hbest, rfl⟩
    -- The best entry splits the row of candidates, and that split is pulled back to the table.
    obtain ⟨first, last, hsplit, hbefore, hafter⟩ := best_eq_some_iff.1 hbest
    obtain ⟨before, rest, rfl, rfl, hrest⟩ := List.filterMap_eq_append_iff.1 hsplit
    obtain ⟨skipped, canned, after, rfl, hskipped, hcanned, rfl⟩ :=
      List.filterMap_eq_cons_iff.1 hrest
    obtain ⟨hfits, heq⟩ := candidate?_eq_some_iff.1 hcanned
    cases heq
    refine ⟨before ++ skipped, after, (List.append_assoc ..).symm, hfits, ?_, ?_⟩
    · intro other hmem hother
      have hsome := candidate?_eq_some_iff.2 ⟨hother, rfl⟩
      -- An entry that fits before the kept one is a candidate, so it does not stand among the
      -- skipped.
      rcases List.mem_append.1 hmem with hmem | hmem
      · exact hbefore _ (List.mem_filterMap.2 ⟨other, hmem, hsome⟩)
      · cases (hskipped other hmem).symm.trans hsome
    · intro other hmem hother
      exact hafter _ (List.mem_filterMap.2 ⟨other, hmem, candidate?_eq_some_iff.2 ⟨hother, rfl⟩⟩)
  · rintro ⟨before, after, rfl, hfits, hbefore, hafter⟩
    refine ⟨(literals canned.route, canned), best_eq_some_iff.2 ⟨before.filterMap
      (candidate? method path), after.filterMap (candidate? method path), ?_, ?_, ?_⟩, rfl⟩
    · rw [List.filterMap_append,
        List.filterMap_cons_some (candidate?_eq_some_iff.2 ⟨hfits, rfl⟩)]
    · intro candidate hmem
      obtain ⟨other, hother, hsome⟩ := List.mem_filterMap.1 hmem
      obtain ⟨hfits, rfl⟩ := candidate?_eq_some_iff.1 hsome
      exact hbefore other hother hfits
    · intro candidate hmem
      obtain ⟨other, hother, hsome⟩ := List.mem_filterMap.1 hmem
      obtain ⟨hfits, rfl⟩ := candidate?_eq_some_iff.1 hsome
      exact hafter other hother hfits

end Lookup

end ClientForge.Client.Mock
