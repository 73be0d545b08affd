/-
  Where following aliases ends.

  A token has at most one alias step, so what it leads to is one chain.  There are three ways for the
  chain to go on (`leads_cases`):

  1. it ends at a scalar;
  2. it ends at something that is neither a scalar nor another name for anything (`DeadEnd`): a list,
     a map, an arbitrary value, a name without a model, or a model that is no alias;
  3. it never ends; and since there are only so many names, it then comes back to one of them.

  The bounded look finds the scalar in the first case and nothing in the other two.  That the three
  exclude one another does not have to be shown apart: in the first the look gives something, in the
  others it does not (`scalarOf?_of_leads` takes the answer of a token to that of any token it leads
  to), so a chain of two kinds would be a look with two answers.

  For the third case a path to a scalar from a token on a cycle would get shorter with each round
  (`scalarOf?_of_cycle`).  That a chain without an end does come back is counting: walks of every
  length exist (`exists_aliasWalk`), one that is longer than the graph is large passes a name twice,
  and between the two passes lies the cycle (`AliasWalk.exists_cycle`).

  The last section is about parts of a graph.  A part that has the models of a chain gives the same
  scalar as the whole, which is what makes pruning safe for whatever asks for scalars.
-/
import Mathlib.Data.List.Nodup
import Mathlib.Logic.Relation
import ClientForge.Proofs.Graph.Alias

namespace ClientForge

namespace Graph

open Relation

/-! ## Alias steps -/

/-- `AliasStep graph token next` — the token names a model that is another name for `next`. -/
inductive AliasStep (graph : Graph) : TypeToken → TypeToken → Prop
  | viaAlias {name : String} {model : Model} {next : TypeToken}
      (hmodel : graph.get? name = some model) (ha : model.aliasOf = some next) :
      AliasStep graph (.named name) next

/-- `DeadEnd graph token` — the token is no scalar, and no model makes it another name for one: it
is a list, a map or anything at all, or a name of no model or of one without an alias. -/
inductive DeadEnd (graph : Graph) : TypeToken → Prop
  | array (item : TypeToken) : DeadEnd graph (.array item)
  | map (value : TypeToken) : DeadEnd graph (.map value)
  | any : DeadEnd graph .any
  | dangling {name : String} (hmodel : graph.get? name = none) : DeadEnd graph (.named name)
  | unaliased {name : String} {model : Model} (hmodel : graph.get? name = some model)
      (ha : model.aliasOf = none) : DeadEnd graph (.named name)

variable {graph : Graph} {token next : TypeToken} {p : Primitive}

/-- A token has at most one alias step. -/
theorem AliasStep.unique {next' : TypeToken} (h : AliasStep graph token next)
    (h' : AliasStep graph token next') : next = next' := by
  cases h with
  | viaAlias hmodel ha => cases h' with
    | viaAlias hmodel' ha' =>
      cases hmodel.symm.trans hmodel'
      exact Option.some.inj (ha.symm.trans ha')

/-- From a dead end there is no step. -/
theorem DeadEnd.not_aliasStep (h : DeadEnd graph token) : ¬ AliasStep graph token next := by
  rintro ⟨hmodel, ha⟩
  cases h with
  | dangling hnone => cases hnone.symm.trans hmodel
  | unaliased hmodel' hnone =>
    cases hmodel.symm.trans hmodel'
    cases hnone.symm.trans ha

/-- A token is a scalar, a dead end, or another name. -/
theorem token_cases (graph : Graph) (token : TypeToken) :
    (∃ p, token = .primitive p) ∨ DeadEnd graph token ∨ ∃ next, AliasStep graph token next := by
  cases token with
  | primitive p => exact Or.inl ⟨p, rfl⟩
  | array item => exact Or.inr (Or.inl (.array item))
  | map value => exact Or.inr (Or.inl (.map value))
  | any => exact Or.inr (Or.inl .any)
  | named name =>
    cases hmodel : graph.get? name with
    | none => exact Or.inr (Or.inl (.dangling hmodel))
    | some model => cases ha : model.aliasOf with
      | none => exact Or.inr (Or.inl (.unaliased hmodel ha))
      | some next => exact Or.inr (Or.inr ⟨next, .viaAlias hmodel ha⟩)

/-! ## Chains to a scalar -/

/-- **The scalar of a token** is the one at the end of its chain. -/
theorem scalarOf?_eq_some_iff_leads :
    graph.scalarOf? token = some p ↔ ReflTransGen (AliasStep graph) token (.primitive p) := by
  rw [scalarOf?_eq_some_iff]
  constructor
  · rintro ⟨names, hpath⟩
    induction hpath with
    | scalar p => exact .refl
    | viaAlias hmodel ha _ ih => exact .head (.viaAlias hmodel ha) ih
  · intro h
    induction h using ReflTransGen.head_induction_on with
    | refl => exact ⟨[], .scalar p⟩
    | head hstep _ ih =>
      obtain ⟨names, hpath⟩ := ih
      obtain ⟨hmodel, ha⟩ := hstep
      exact ⟨_, .viaAlias hmodel ha hpath⟩

/-- A step does not change what scalar is found. -/
theorem scalarOf?_of_aliasStep (h : AliasStep graph token next) :
    graph.scalarOf? token = graph.scalarOf? next := by
  apply Option.ext
  intro p
  rw [scalarOf?_eq_some_iff_leads, scalarOf?_eq_some_iff_leads]
  constructor
  · intro hleads
    rcases hleads.cases_head with heq | ⟨next', hstep, hrest⟩
    · rw [heq] at h
      cases h
    · rwa [h.unique hstep]
  · exact ReflTransGen.head h

/-- Neither does any number of steps. -/
theorem scalarOf?_of_leads (h : ReflTransGen (AliasStep graph) token next) :
    graph.scalarOf? token = graph.scalarOf? next := by
  induction h with
  | refl => rfl
  | tail _ hstep ih => rw [ih, scalarOf?_of_aliasStep hstep]

/-- At a dead end no scalar is found. -/
theorem DeadEnd.scalarOf?_eq_none (h : DeadEnd graph token) : graph.scalarOf? token = none := by
  rw [Option.eq_none_iff_forall_ne_some]
  intro p hp
  rcases (scalarOf?_eq_some_iff_leads.1 hp).cases_head with heq | ⟨next, hstep, -⟩
  · rw [heq] at h
    cases h
  · exact h.not_aliasStep hstep

/-- An alias step leaves a shorter path. -/
theorem AliasPath.of_aliasStep {names : List String} (h : AliasPath graph token names p)
    (hstep : AliasStep graph token next) :
    ∃ rest, rest.length < names.length ∧ AliasPath graph next rest p := by
  cases h with
  | scalar => cases hstep
  | viaAlias hmodel ha h =>
    rw [hstep.unique (.viaAlias hmodel ha)]
    exact ⟨_, Nat.lt_succ_self _, h⟩

/-- From a token on a cycle no path leads to a scalar: it would be shorter after each round. -/
theorem scalarOf?_of_cycle (h : TransGen (AliasStep graph) token token) :
    graph.scalarOf? token = none := by
  rw [Option.eq_none_iff_forall_ne_some]
  intro p hp
  obtain ⟨names, hpath⟩ := scalarOf?_eq_some_iff.1 hp
  have hround : ∀ {last}, TransGen (AliasStep graph) token last →
      ∃ rest, rest.length < names.length ∧ AliasPath graph last rest p := by
    intro last hlast
    induction hlast with
    | single hstep => exact hpath.of_aliasStep hstep
    | tail _ hstep ih =>
      obtain ⟨rest, hlt, hrest⟩ := ih
      obtain ⟨shorter, hlt', hshorter⟩ := hrest.of_aliasStep hstep
      exact ⟨shorter, Nat.lt_trans hlt' hlt, hshorter⟩
  -- the path that is left after a round starts at the same token, and there is only one
  obtain ⟨rest, hlt, hrest⟩ := hround h
  rw [(hrest.unique hpath).1] at hlt
  exact Nat.lt_irrefl _ hlt

/-! ## Walks -/

/-- `AliasWalk graph token names` — from the token alias steps go through these names, one after the
other. -/
inductive AliasWalk (graph : Graph) : TypeToken → List String → Prop
  | start (token : TypeToken) : AliasWalk graph token []
  | step {name : String} {next : TypeToken} {names : List String}
      (hstep : AliasStep graph (.named name) next) (h : AliasWalk graph next names) :
      AliasWalk graph (.named name) (name :: names)

/-- A walk leads to each of the names it goes through. -/
theorem AliasWalk.leads {names : List String} {name : String} (h : AliasWalk graph token names)
    (hname : name ∈ names) : ReflTransGen (AliasStep graph) token (.named name) := by
  induction h with
  | start token => cases hname
  | step hstep _ ih =>
    rcases List.mem_cons.1 hname with rfl | hname
    · exact .refl
    · exact .head hstep (ih hname)

/-- The names of a walk are names of the graph. -/
theorem AliasWalk.subset_names {names : List String} (h : AliasWalk graph token names) :
    names ⊆ graph.names := by
  induction h with
  | start token => exact List.nil_subset _
  | step hstep _ ih =>
    obtain ⟨hmodel, -⟩ := hstep
    exact List.cons_subset.2 ⟨mem_names.2 ⟨_, hmodel⟩, ih⟩

/-- A walk through a name twice has gone in a circle. -/
theorem AliasWalk.exists_cycle {names : List String} (h : AliasWalk graph token names)
    (htwice : ¬ names.Nodup) :
    ∃ again, ReflTransGen (AliasStep graph) token again ∧
      TransGen (AliasStep graph) again again := by
  induction h with
  | start token => exact absurd List.nodup_nil htwice
  | @step name next names hstep h ih =>
    by_cases hmem : name ∈ names
    · exact ⟨.named name, .refl, .head' hstep (h.leads hmem)⟩
    · obtain ⟨again, hleads, hcycle⟩ := ih fun hnodup => htwice (List.nodup_cons.2 ⟨hmem, hnodup⟩)
      exact ⟨again, .head hstep hleads, hcycle⟩

/-- As many steps as one likes can be taken, unless the chain ends before. -/
theorem exists_aliasWalk (graph : Graph) (token : TypeToken) (steps : Nat) :
    (∃ last, ReflTransGen (AliasStep graph) token last ∧
      ((∃ p, last = .primitive p) ∨ DeadEnd graph last)) ∨
    ∃ names, names.length = steps ∧ AliasWalk graph token names := by
  induction steps generalizing token with
  | zero => exact Or.inr ⟨[], rfl, .start token⟩
  | succ steps ih =>
    rcases token_cases graph token with hscalar | hdead | ⟨next, hstep⟩
    · exact Or.inl ⟨token, .refl, Or.inl hscalar⟩
    · exact Or.inl ⟨token, .refl, Or.inr hdead⟩
    · rcases ih next with ⟨last, hleads, hlast⟩ | ⟨names, hlen, hwalk⟩
      · exact Or.inl ⟨last, .head hstep hleads, hlast⟩
      · cases hstep with
        | @viaAlias name _ _ hmodel ha =>
          exact Or.inr ⟨name :: names, by rw [List.length_cons, hlen],
            .step (.viaAlias hmodel ha) hwalk⟩

/-- **What a chain comes to:** a scalar, a dead end, or a circle. -/
theorem leads_cases (graph : Graph) (token : TypeToken) :
    (∃ p, ReflTransGen (AliasStep graph) token (.primitive p)) ∨
    (∃ last, ReflTransGen (AliasStep graph) token last ∧ DeadEnd graph last) ∨
    ∃ again, ReflTransGen (AliasStep graph) token again ∧
      TransGen (AliasStep graph) again again := by
  -- a walk with one step more than there are models goes through a name twice
  rcases exists_aliasWalk graph token (graph.names.length + 1) with
    ⟨last, hleads, ⟨p, rfl⟩ | hdead⟩ | ⟨names, hlen, hwalk⟩
  · exact Or.inl ⟨p, hleads⟩
  · exact Or.inr (Or.inl ⟨last, hleads, hdead⟩)
  · refine Or.inr (Or.inr (hwalk.exists_cycle fun hnodup => ?_))
    have hle := hnodup.length_le_of_subset hwalk.subset_names
    omega

/-- No scalar is found exactly if the chain meets a dead end or a circle. -/
theorem scalarOf?_eq_none_iff :
    graph.scalarOf? token = none ↔
      (∃ last, ReflTransGen (AliasStep graph) token last ∧ DeadEnd graph last) ∨
      ∃ again, ReflTransGen (AliasStep graph) token again ∧
        TransGen (AliasStep graph) again again := by
  constructor
  · intro hnone
    rcases leads_cases graph token with ⟨p, hleads⟩ | hends
    · cases hnone.symm.trans (scalarOf?_eq_some_iff_leads.2 hleads)
    · exact hends
  · rintro (⟨last, hleads, hdead⟩ | ⟨again, hleads, hcycle⟩)
    · rw [scalarOf?_of_leads hleads, hdead.scalarOf?_eq_none]
    · rw [scalarOf?_of_leads hleads, scalarOf?_of_cycle hcycle]

/-! ## Parts of a graph -/

/-- `part.IsPartOf graph` — every model of the part is the one that the graph has under its name. -/
def IsPartOf (part graph : Graph) : Prop :=
  ∀ name model, part.get? name = some model → graph.get? name = some model

/-- A step in a part is one in the whole. -/
theorem AliasStep.of_isPartOf {part : Graph} (hpart : part.IsPartOf graph)
    (h : AliasStep part token next) : AliasStep graph token next := by
  obtain ⟨hmodel, ha⟩ := h
  exact .viaAlias (hpart _ _ hmodel) ha

/-- A step from a name that the part has is one in the part. -/
theorem AliasStep.to_part {part : Graph} {name : String} (hpart : part.IsPartOf graph)
    (hmem : part.contains name = true) (h : AliasStep graph (.named name) next) :
    AliasStep part (.named name) next := by
  obtain ⟨hmodel, ha⟩ := h
  obtain ⟨model, hheld⟩ := contains_iff.1 hmem
  cases (hpart _ _ hheld).symm.trans hmodel
  exact .viaAlias hheld ha

/-- **A part that has the chain** gives the same scalar. -/
theorem scalarOf?_of_isPartOf {part : Graph} (hpart : part.IsPartOf graph)
    (hchain : ∀ name p, ReflTransGen (AliasStep graph) token (.named name) →
      ReflTransGen (AliasStep graph) (.named name) (.primitive p) → part.contains name = true) :
    part.scalarOf? token = graph.scalarOf? token := by
  apply Option.ext
  intro p
  rw [scalarOf?_eq_some_iff_leads, scalarOf?_eq_some_iff_leads]
  constructor
  · exact fun h => h.lift id fun _ _ => AliasStep.of_isPartOf hpart
  · intro h
    induction h using ReflTransGen.head_induction_on with
    | refl => exact .refl
    | @head token next hstep hrest ih =>
      -- the name at hand is on the way to the scalar, so the part has its model
      have hnext := ih fun name p hleads => hchain name p (.head hstep hleads)
      cases hstep with
      | @viaAlias name _ _ hmodel ha =>
        have hmem := hchain name p .refl (.head (.viaAlias hmodel ha) hrest)
        exact .head ((AliasStep.viaAlias hmodel ha).to_part hpart hmem) hnext

/-- More looks than there are models find nothing new. -/
theorem scalarWithin_of_size_lt {steps : Nat} (h : graph.size < steps) :
    graph.scalarWithin steps token = graph.scalarOf? token := by
  apply Option.ext
  intro p
  rw [scalarWithin_eq_some_iff, scalarOf?_eq_some_iff]
  constructor
  · rintro ⟨names, -, hpath⟩
    exact ⟨names, hpath⟩
  · rintro ⟨names, hpath⟩
    exact ⟨names, Nat.lt_of_le_of_lt hpath.length_le_size h, hpath⟩

/-- **Aliases are followed exactly.**  A token stands for the scalar that its chain of aliases leads
to, however long the chain is, for looking further finds nothing new.  It stands for none exactly if
the chain comes to a dead end or goes in a circle.  And any part of the graph that has the models on
the way to the scalar says the same. -/
theorem scalarOf?_exact (graph : Graph) (token : TypeToken) :
    (∀ p, graph.scalarOf? token = some p ↔
      ReflTransGen (AliasStep graph) token (.primitive p)) ∧
    (∀ steps, graph.size < steps → graph.scalarWithin steps token = graph.scalarOf? token) ∧
    (graph.scalarOf? token = none ↔
      (∃ last, ReflTransGen (AliasStep graph) token last ∧ DeadEnd graph last) ∨
      ∃ again, ReflTransGen (AliasStep graph) token again ∧
        TransGen (AliasStep graph) again again) ∧
    ∀ part : Graph, part.IsPartOf graph →
      (∀ name p, ReflTransGen (AliasStep graph) token (.named name) →
        ReflTransGen (AliasStep graph) (.named name) (.primitive p) →
        part.contains name = true) →
      part.scalarOf? token = graph.scalarOf? token :=
  ⟨fun _ => scalarOf?_eq_some_iff_leads, fun _ => scalarWithin_of_size_lt, scalarOf?_eq_none_iff,
    fun _ => scalarOf?_of_isPartOf⟩

end Graph

end ClientForge
