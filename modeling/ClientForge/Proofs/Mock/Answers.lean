/-
  The table of fixtures, told by the endpoints and the configuration.

  A generated client comes with a stand-in for the server, which answers from a table of fixtures: one
  for each route and method, with a status and a body.  The body is an example from the document, or
  one that the configuration sets in its place, or null.

  1. **Overrides.**  An override is for a route and a method; the method may be written in any mixture
     of upper and lower case, and of several for one endpoint the first counts (`Config.Overrides`).
     A configuration that was read from a text has no fault, so every override in it names a method and
     has a payload that is JSON.  Looking an override up decodes its name and its payload once more,
     and drops it if either fails; with a configuration that was read it never has to
     (`Config.payload?_of_overrides`).
  2. **Answers** (`Config.Answer`).  The three cases of the body, each with the condition that the ones
     before it do not apply.  An endpoint has exactly one answer (`Config.answer_iff`).
  3. **The table** (`Sdk.fixtures_answerAll`).  With what the table holds anyway — the last endpoint for
     a route and method that is not excluded, in order — this is all there is to say of a fixture:
     whose it is, its status and its body.

  Two endpoints for one route and method are possible, and then the later one's fixture is the one in
  the table; its body, however, is decided by route and method, so an override applies to both.
-/
import ClientForge.Config.Reading
import ClientForge.Proofs.Mock.Fixtures
import ClientForge.Proofs.Ordered.Octets

namespace ClientForge

/-! ## Overrides -/

/-- The text is the name of the method, in any mixture of upper and lower case. -/
def Method.Spelled (method : Method) (text : String) : Prop :=
  text.toList.map Char.toUpper = method.name.toList

/-- A method is known by its name, in whatever letters it is written. -/
theorem Method.ofName?_eq_some_iff {text : String} {method : Method} :
    ofName? text = some method ↔ method.Spelled text := by
  let named (other : Method) : Bool := other.name == String.ofList (text.toList.map Char.toUpper)
  have hnamed : ∀ other : Method, named other = true ↔ other.Spelled text := by
    intro other
    rw [beq_iff_eq, ← String.toList_inj, String.toList_ofList, eq_comm, Spelled]
  show all.find? named = some method ↔ _
  constructor
  · intro h
    exact (hnamed method).1 (List.find?_some h)
  · intro h
    cases hfound : all.find? named with
    | none =>
      have hother := List.find?_eq_none.1 hfound method (mem_all method)
      exact absurd ((hnamed method).2 h) hother
    | some other =>
      have hother := (hnamed other).1 (List.find?_some hfound)
      rw [name_injective (String.toList_inj.1 (hother.symm.trans h))]

/-- The override is for the route and the method. -/
def ExampleOverride.Matches (o : ExampleOverride) (route : String) (method : Method) : Prop :=
  o.route = route ∧ method.Spelled o.method

namespace Config

/-- Of the overrides of a configuration, this is the first for the route and the method. -/
def Overrides (config : Config) (route : String) (method : Method) (o : ExampleOverride) : Prop :=
  ∃ before after, config.overrides = before ++ o :: after ∧ o.Matches route method ∧
    ∀ other ∈ before, ¬ other.Matches route method

/-- The text is the answer to the endpoint: the payload of the first override for it, else its
example, else null. -/
inductive Answer (config : Config) (endpoint : Endpoint) : String → Prop
  | configured {o : ExampleOverride} {payload : Json}
      (hfirst : config.Overrides endpoint.route endpoint.method o)
      (hpayload : jsonOfText? o.body = some payload) : Answer config endpoint payload.compact
  | sampled {sample : Json}
      (hnone : ∀ o ∈ config.overrides, ¬ o.Matches endpoint.route endpoint.method)
      (hsample : endpoint.sample = some sample) : Answer config endpoint sample.compact
  | null (hnone : ∀ o ∈ config.overrides, ¬ o.Matches endpoint.route endpoint.method)
      (hsample : endpoint.sample = none) : Answer config endpoint "null"

variable {config : Config} {route text : String} {method : Method} {o : ExampleOverride}

/-- The test by which an override is found. -/
theorem matches_iff : (o.route == route && Method.ofName? o.method == some method) = true ↔
    o.Matches route method := by
  rw [Bool.and_eq_true, beq_iff_eq, beq_iff_eq, Method.ofName?_eq_some_iff]
  exact Iff.rfl

/-- The override that is found is the first one that matches. -/
theorem override?_eq_some_iff :
    config.override? route method = some o ↔ config.Overrides route method o := by
  have hnot : ∀ other : ExampleOverride,
      (!(other.route == route && Method.ofName? other.method == some method)) = true ↔
        ¬ other.Matches route method := by
    intro other
    rw [← matches_iff, Bool.not_eq_true', Bool.not_eq_true]
  rw [override?, List.find?_eq_some_iff_append, matches_iff]
  simp only [hnot]
  constructor
  · rintro ⟨hmatches, before, after, hsplit, hbefore⟩
    exact ⟨before, after, hsplit, hmatches, hbefore⟩
  · rintro ⟨before, after, hsplit, hmatches, hbefore⟩
    exact ⟨hmatches, before, after, hsplit, hbefore⟩

/-- None is found if none matches. -/
theorem override?_eq_none_iff : config.override? route method = none ↔
    ∀ o ∈ config.overrides, ¬ o.Matches route method := by
  rw [override?, List.find?_eq_none]
  exact forall₂_congr fun o _ => not_congr matches_iff

/-! ## Configurations that were read -/

/-- A configuration that was read has no fault. -/
theorem fault?_of_ofText (h : ofText text = .ok config) : config.fault? = none := by
  unfold ofText at h
  split at h
  · cases h
  · split at h
    · cases h
    · cases h
      assumption

/-- **Every override of a configuration counts:** it is for some method, and its payload is JSON. -/
theorem override_of_ofText (h : ofText text = .ok config) (hmem : o ∈ config.overrides) :
    (∃ method : Method, method.Spelled o.method) ∧
      ∃ payload, jsonOfText? o.body = some payload := by
  have hfault : overrideFault? o = none := by
    have hnone := fault?_of_ofText h
    unfold fault? at hnone
    split at hnone
    · cases hnone
    · exact List.findSome?_eq_none_iff.1 hnone o hmem
  unfold overrideFault? at hfault
  split at hfault
  · cases hfault
  · split at hfault
    · cases hfault
    · rename_i hmethod hbody
      obtain ⟨method, hmethod⟩ := Option.ne_none_iff_exists'.1 (mt Option.isNone_iff_eq_none.2 hmethod)
      obtain ⟨payload, hbody⟩ := Option.ne_none_iff_exists'.1 (mt Option.isNone_iff_eq_none.2 hbody)
      exact ⟨⟨method, Method.ofName?_eq_some_iff.1 hmethod⟩, payload, hbody⟩

/-- So the payload that replaces an example is that of the first override. -/
theorem payload?_of_overrides (hread : ofText text = .ok config)
    (h : config.Overrides route method o) :
    ∃ payload, jsonOfText? o.body = some payload ∧ config.payload? route method = some payload := by
  obtain ⟨before, after, hsplit, -⟩ := id h
  have hmem : o ∈ config.overrides := by
    rw [hsplit]
    exact List.mem_append_right _ List.mem_cons_self
  obtain ⟨-, payload, hbody⟩ := override_of_ofText hread hmem
  refine ⟨payload, hbody, ?_⟩
  rw [payload?, override?_eq_some_iff.2 h]
  exact hbody

/-- Without an override no payload replaces the example. -/
theorem payload?_of_none (h : ∀ o ∈ config.overrides, ¬ o.Matches route method) :
    config.payload? route method = none := by
  rw [payload?, override?_eq_none_iff.2 h]
  rfl

/-- **An endpoint has one answer,** and the body of its fixture is it. -/
theorem answer_iff (h : ofText text = .ok config) {endpoint : Endpoint} {body : String} :
    config.Answer endpoint body ↔ body = Sdk.fixtureBody config endpoint := by
  constructor
  · -- Each way to an answer fixes what the look-up of the override, or of the sample, gives.
    intro hanswer
    unfold Sdk.fixtureBody
    cases hanswer with
    | configured hfirst hpayload =>
      obtain ⟨payload, hbody, hfound⟩ := payload?_of_overrides h hfirst
      cases hpayload.symm.trans hbody
      rw [hfound]
      rfl
    | sampled hnone hsample => rw [payload?_of_none hnone, hsample]; rfl
    | null hnone hsample => rw [payload?_of_none hnone, hsample]; rfl
  · rintro rfl
    -- The converse reads the same three ways off the two look-ups, the override's first.
    unfold Sdk.fixtureBody
    cases hfirst : config.override? endpoint.route endpoint.method with
    | some o =>
      have hoverrides := override?_eq_some_iff.1 hfirst
      obtain ⟨payload, hbody, hfound⟩ := payload?_of_overrides h hoverrides
      rw [hfound]
      exact .configured hoverrides hbody
    | none =>
      have hnone := override?_eq_none_iff.1 hfirst
      rw [payload?_of_none hnone]
      cases hsample : endpoint.sample with
      | some sample => exact .sampled hnone hsample
      | none => exact .null hnone hsample

/-- A route is kept if it is not among those excluded. -/
theorem skips_eq_false_iff : config.skips route = false ↔ route ∉ config.skipTests := by
  rw [skips, ← Bool.not_eq_true, List.contains_iff_mem]

end Config

namespace Sdk

/-! ## The table -/

section Table

variable {config : Config} {endpoints : List Endpoint} {fixture : Fixture}

/-- The endpoint is the last of those for the route and the method of the fixture. -/
def LastFor (endpoint : Endpoint) (endpoints : List Endpoint) (fixture : Fixture) : Prop :=
  ∃ before after, endpoints = before ++ endpoint :: after ∧
    endpoint.route = fixture.route ∧ endpoint.method = fixture.method ∧
    ∀ other ∈ after, other.route = fixture.route → other.method ≠ fixture.method

/-- The last fixture for a route and a method is that of the last endpoint for them. -/
theorem exists_lastFor
    (h : LastOf fixture ((keptEndpoints config endpoints).map (fixtureOf config))) :
    ∃ endpoint, LastFor endpoint endpoints fixture ∧ config.skips endpoint.route = false ∧
      fixtureOf config endpoint = fixture := by
  induction endpoints with
  | nil =>
    obtain ⟨before, after, hsplit, -⟩ := h
    exact absurd hsplit.symm (List.append_ne_nil_of_right_ne_nil _ (List.cons_ne_nil _ _))
  | cons first rest ih =>
    have hlater : (∃ endpoint, LastFor endpoint rest fixture ∧
        config.skips endpoint.route = false ∧ fixtureOf config endpoint = fixture) →
        ∃ endpoint, LastFor endpoint (first :: rest) fixture ∧
          config.skips endpoint.route = false ∧ fixtureOf config endpoint = fixture := by
      rintro ⟨endpoint, ⟨before, after, rfl, hlast⟩, hfixture⟩
      exact ⟨endpoint, ⟨first :: before, after, rfl, hlast⟩, hfixture⟩
    cases hskips : config.skips first.route with
    | true =>
      rw [keptEndpoints, List.filter_cons_of_neg (by simp [hskips])] at h
      exact hlater (ih h)
    | false =>
      rw [keptEndpoints, List.filter_cons_of_pos (by simp [hskips]), List.map_cons,
        lastOf_cons] at h
      rcases h with h | ⟨rfl, hothers⟩
      · exact hlater (ih h)
      · refine ⟨first, ⟨[], rest, rfl, rfl, rfl, fun other hother hroute hmethod => ?_⟩, hskips,
          rfl⟩
        -- one more for the same route would not be excluded either
        have hkept : other ∈ keptEndpoints config rest := by
          refine List.mem_filter.2 ⟨hother, ?_⟩
          rw [show other.route = first.route from hroute, hskips]
          rfl
        exact hothers _ (List.mem_map_of_mem hkept) ⟨hroute, hmethod⟩

/-- Whatever is in a row, there is a last one for its route and method. -/
theorem exists_lastOf {row : List Fixture} (h : fixture ∈ row) :
    ∃ last, LastOf last row ∧ last.SameKey fixture := by
  induction row generalizing fixture with
  | nil => cases h
  | cons first rest ih =>
    by_cases hlater : ∃ other ∈ rest, other.SameKey fixture
    · obtain ⟨other, hmem, hroute, hmethod⟩ := hlater
      obtain ⟨last, hlast, hroute', hmethod'⟩ := ih hmem
      exact ⟨last, lastOf_cons.2 (Or.inl hlast), hroute'.trans hroute, hmethod'.trans hmethod⟩
    · rcases List.mem_cons.1 h with rfl | hmem
      · refine ⟨fixture, lastOf_cons.2 (Or.inr ⟨rfl, fun other hother hsame => ?_⟩), rfl, rfl⟩
        exact hlater ⟨other, hother, hsame⟩
      · exact absurd ⟨fixture, hmem, rfl, rfl⟩ hlater

end Table

/-- The table has exactly the answers to the endpoints. -/
structure AnswersAll (config : Config) (endpoints : List Endpoint) (table : List Fixture) :
    Prop where
  /-- By the octets of the route, and then by method. -/
  ordered : table.Pairwise fun first second =>
    Text.utf8 first.route.toList < Text.utf8 second.route.toList ∨
      (first.route = second.route ∧ first.method.rank < second.method.rank)
  /-- An endpoint whose route is not excluded has one fixture for its route and method. -/
  complete : ∀ endpoint ∈ endpoints, endpoint.route ∉ config.skipTests →
    ∃ fixture ∈ table, fixture.route = endpoint.route ∧ fixture.method = endpoint.method ∧
      ∀ other ∈ table, other.route = endpoint.route → other.method = endpoint.method →
        other = fixture
  /-- A fixture has the status of the last endpoint for its route and method, and the answer to
  that endpoint. -/
  sound : ∀ fixture ∈ table, fixture.route ∉ config.skipTests ∧
    ∃ endpoint, LastFor endpoint endpoints fixture ∧ fixture.status = endpoint.status ∧
      config.Answer endpoint fixture.body
  /-- The first override for a fixture's route and method is its body. -/
  overridden : ∀ fixture ∈ table, ∀ o, config.Overrides fixture.route fixture.method o →
    ∃ payload, Config.jsonOfText? o.body = some payload ∧ fixture.body = payload.compact

/-- **The table of fixtures is exactly the answers to the endpoints,** for every configuration that
was read from a text. -/
theorem fixtures_answerAll {text : String} {config : Config} (h : Config.ofText text = .ok config)
    (endpoints : List Endpoint) : AnswersAll config endpoints (fixtures config endpoints) where
  ordered := (fixtures_pairwise config endpoints).imp
    fun hbefore => hbefore.imp Text.lt_iff_utf8_lt.1 id
  complete := by
    -- Complete: the last endpoint of a kept pair survives the collisions, under that pair.
    intro endpoint hmem hroute
    have hkept : endpoint ∈ keptEndpoints config endpoints := by
      refine List.mem_filter.2 ⟨hmem, ?_⟩
      rw [Config.skips_eq_false_iff.2 hroute]
      rfl
    obtain ⟨fixture, hlast, hsame⟩ := exists_lastOf (List.mem_map_of_mem hkept)
    have hfixture := mem_fixtures_iff.2 hlast
    refine ⟨fixture, hfixture, hsame.1, hsame.2, fun other hother hroute hmethod => ?_⟩
    exact eq_of_sameKey hother hfixture ⟨hroute.trans hsame.1.symm, hmethod.trans hsame.2.symm⟩
  sound := by
    -- Sound: a fixture is the one of some kept endpoint, and that endpoint is the last of its pair.
    intro fixture hmem
    obtain ⟨endpoint, hlast, hskips, rfl⟩ := exists_lastFor (mem_fixtures_iff.1 hmem)
    exact ⟨Config.skips_eq_false_iff.1 hskips, endpoint, hlast, rfl, (Config.answer_iff h).2 rfl⟩
  overridden := by
    intro fixture hmem o hfirst
    obtain ⟨endpoint, -, -, rfl⟩ := exists_lastFor (mem_fixtures_iff.1 hmem)
    obtain ⟨payload, hbody, -⟩ := Config.payload?_of_overrides h hfirst
    have hanswer := (Config.answer_iff h).1 (.configured hfirst hbody)
    exact ⟨payload, hbody, hanswer.symm⟩

/-- One payload for a method in mixed letters, and a route without fixtures. -/
def overridingText : String :=
  "skip_tests = ['/b']\n[[example_overrides]]\nroute = '/a'\nmethod = 'gEt'\nbody = '[1]'"

/-- Two endpoints for one route and method, and one that is excluded. -/
def answeredEndpoints : List Endpoint :=
  [{ name := "First", method := .get, route := "/a" },
    { name := "Second", method := .get, route := "/a", status := 201 },
    { name := "Third", method := .post, route := "/b" }]

/-- The override replaces the example of the later endpoint, and the route that is excluded has no
fixture. -/
theorem fixtures_answerAll_overriding : ∃ config, Config.ofText overridingText = .ok config ∧
    AnswersAll config answeredEndpoints (fixtures config answeredEndpoints) := by
  have hok : (Config.ofText overridingText).isOk = true := by decide +kernel
  cases h : Config.ofText overridingText with
  | error fault =>
    rw [h] at hok
    cases hok
  | ok config => exact ⟨config, rfl, fixtures_answerAll h answeredEndpoints⟩

example : (Config.ofText overridingText).toOption.map (fixtures · answeredEndpoints) =
    some [⟨"/a", .get, 201, "[1]"⟩] := by decide +kernel

end Sdk

end ClientForge
