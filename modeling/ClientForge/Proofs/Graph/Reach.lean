/-
  The worklist search visits what can be reached, and nothing else.

  What a client needs of a graph, whether a model is free of itself, and whether a name leads to
  another are all asked of one search: from some start names, go on to the names that a model leads
  to, until nothing new turns up.  The search keeps the names it has not visited, and every step
  shrinks that set or the list of pending names, so it ends whatever cycles the graph has.

  The invariant has to say what a search that is under way is still going to visit.  It is a path: a
  name is visited exactly if it can be reached from the pending names by steps that stay inside the
  unvisited ones (`PathWithin`, `mem_reachFrom`).  Plain reachability would not do, because a step
  takes a name out of the unvisited ones, and a path that went through that name is no longer a path
  inside.  What saves it is that the name's successors become pending at the same moment, so the path
  can be started there instead (`PathWithin.visit`).

  At the start everything in the graph is unvisited, the restriction falls away, and the names visited
  are the reachable ones that have a model (`mem_reach`).  Names without a model may be pending, but
  they are never visited.
-/
import ClientForge.Model.Reach
import ClientForge.Proofs.Graph.Lookup

namespace ClientForge

namespace Graph

/-! ## Paths inside a set of names -/

/-- `PathWithin next inside start x` — a path from one of the start names to `x`, each of whose
names lies in `inside`. -/
inductive PathWithin (next : String → List String) (inside start : List String) : String → Prop
  | start {x : String} (hx : x ∈ start) (hin : x ∈ inside) : PathWithin next inside start x
  | step {y x : String} (hy : PathWithin next inside start y) (hx : x ∈ next y)
      (hin : x ∈ inside) : PathWithin next inside start x

/-- A name is left after another is taken out if it is there and a different one. -/
theorem mem_without {name x : String} {names : List String} :
    x ∈ without name names ↔ x ∈ names ∧ x ≠ name := by
  simp [without]

/-- A path may be looked at in a larger set, and from start names that themselves have paths. -/
theorem PathWithin.extend {next : String → List String} {inside inside' start start' : List String}
    {x : String} (h : PathWithin next inside start x) (hsub : ∀ y ∈ inside, y ∈ inside')
    (hstart : ∀ y ∈ start, y ∈ inside → PathWithin next inside' start' y) :
    PathWithin next inside' start' x := by
  induction h with
  | start hx hin => exact hstart _ hx hin
  | step _ hx hin ih => exact .step ih hx (hsub _ hin)

/-- **One step of the search:** from a pending name, a path either ends there or goes on from its
successors or the other pending names, never to come back to it. -/
theorem PathWithin.visit {next : String → List String} {inside rest : List String}
    {name x : String} (h : PathWithin next inside (name :: rest) x) :
    x = name ∨ PathWithin next (without name inside) (next name ++ rest) x := by
  induction h with
  | @start x hx hin =>
    rcases List.mem_cons.1 hx with heq | hx
    · exact Or.inl heq
    · by_cases heq : x = name
      · exact Or.inl heq
      · exact Or.inr (.start (List.mem_append_right _ hx) (mem_without.2 ⟨hin, heq⟩))
  | @step y x _ hx hin ih =>
    by_cases heq : x = name
    · exact Or.inl heq
    · have hout : x ∈ without name inside := mem_without.2 ⟨hin, heq⟩
      rcases ih with hy | hy
      · subst hy
        exact Or.inr (.start (List.mem_append_left _ hx) hout)
      · exact Or.inr (.step hy hx hout)

/-! ## The search -/

/-- **What the search visits:** the names with a path from the pending ones through unvisited
ones. -/
theorem mem_reachFrom {next : String → List String} {unvisited pending : List String} {x : String} :
    x ∈ reachFrom next unvisited pending ↔ PathWithin next unvisited pending x := by
  -- along the search itself: `case2` visits a name, `case3` drops one that was visited before
  induction unvisited, pending using reachFrom.induct next with
  | case1 unvisited =>
    rw [reachFrom]
    constructor
    · intro h
      exact absurd h List.not_mem_nil
    · intro h
      induction h with
      | start hx _ => exact hx
      | step _ _ _ ih => exact absurd ih List.not_mem_nil
  | case2 unvisited name rest hin ih =>
    rw [reachFrom, dif_pos hin, List.mem_cons, ih]
    constructor
    · intro h
      have hname : PathWithin next unvisited (name :: rest) name :=
        .start List.mem_cons_self hin
      rcases h with rfl | h
      · exact hname
      · -- its successors are one step from the name itself, the other start names are kept
        refine h.extend (fun y hy => (mem_without.1 hy).1) fun y hy hy' => ?_
        have hyin : y ∈ unvisited := (mem_without.1 hy').1
        rcases List.mem_append.1 hy with hy | hy
        · exact .step hname hy hyin
        · exact .start (List.mem_cons_of_mem _ hy) hyin
    · exact PathWithin.visit
  | case3 unvisited name rest hout ih =>
    rw [reachFrom, dif_neg hout, ih]
    constructor
    · intro h
      exact h.extend (fun _ hy => hy) fun y hy hyin => .start (List.mem_cons_of_mem _ hy) hyin
    · intro h
      refine h.extend (fun _ hy => hy) fun y hy hyin => ?_
      -- no path starts at the name, for it is not among the unvisited ones
      rcases List.mem_cons.1 hy with rfl | hy
      · exact absurd hyin hout
      · exact .start hy hyin

/-! ## Reachability in a graph -/

/-- `Reachable graph targets start name` — the name is a start name, or the model of a reachable
name leads to it.  The name itself need not have a model. -/
inductive Reachable (graph : Graph) (targets : Model → List String) (start : List String) :
    String → Prop
  | start {name : String} (h : name ∈ start) : Reachable graph targets start name
  | step {owner name : String} {model : Model} (howner : Reachable graph targets start owner)
      (hmodel : graph.get? owner = some model) (h : name ∈ targets model) :
      Reachable graph targets start name

/-- What a name leads to is what its model leads to, if it has one. -/
theorem mem_targetsOf {graph : Graph} {targets : Model → List String} {name target : String} :
    target ∈ graph.targetsOf targets name ↔
      ∃ model, graph.get? name = some model ∧ target ∈ targets model := by
  unfold targetsOf
  cases graph.get? name with
  | none => simp
  | some model => simp

/-- **The names visited are the reachable ones that have a model.** -/
theorem mem_reach {graph : Graph} {targets : Model → List String} {start : List String}
    {name : String} :
    name ∈ graph.reach targets start ↔
      (∃ model, graph.get? name = some model) ∧ Reachable graph targets start name := by
  rw [reach, mem_reachFrom]
  constructor
  · intro h
    induction h with
    | start hx hin => exact ⟨mem_names.1 hin, .start hx⟩
    | step _ hx hin ih =>
      obtain ⟨model, hmodel, hx⟩ := mem_targetsOf.1 hx
      exact ⟨mem_names.1 hin, .step ih.2 hmodel hx⟩
  · rintro ⟨hin, h⟩
    induction h with
    | start hx => exact .start hx (mem_names.2 hin)
    | step _ hmodel hx ih =>
      exact .step (ih ⟨_, hmodel⟩) (mem_targetsOf.2 ⟨_, hmodel, hx⟩) (mem_names.2 hin)

/-- Leading from one name to another is reachability from the one name. -/
theorem leadsTo_iff {graph : Graph} {targets : Model → List String} {start target : String} :
    graph.leadsTo targets start target = true ↔ Reachable graph targets [start] target := by
  simp only [leadsTo, Bool.or_eq_true, beq_iff_eq, List.any_eq_true, List.contains_iff_mem]
  constructor
  · rintro (rfl | ⟨name, hname, htarget⟩)
    · exact .start List.mem_cons_self
    · obtain ⟨model, hmodel, htarget⟩ := mem_targetsOf.1 htarget
      exact .step (mem_reach.1 hname).2 hmodel htarget
  · intro h
    cases h with
    | start h => exact Or.inl (List.mem_singleton.1 h).symm
    | step howner hmodel h =>
      exact Or.inr ⟨_, mem_reach.2 ⟨⟨_, hmodel⟩, howner⟩, mem_targetsOf.2 ⟨_, hmodel, h⟩⟩

end Graph

end ClientForge
