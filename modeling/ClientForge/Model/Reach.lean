/-
  What can be reached in a graph by going from name to name.

  The search is a worklist over names with a set of names not yet visited.  Each step either drops
  a name from the list or takes one from that set, so it ends for every graph, cyclic ones
  included.
-/
import ClientForge.Model.Graph

namespace ClientForge

namespace Graph

/-- The names of the list without one of them. -/
def without (name : String) (names : List String) : List String := names.filter (· != name)

theorem length_without_lt {name : String} {names : List String} (h : name ∈ names) :
    (without name names).length < names.length := by
  unfold without
  refine List.length_filter_lt_length_iff_exists.2 ⟨name, h, ?_⟩
  simp

/-- The names visited from the pending ones: one is taken from the list at a time, and if it is
still unvisited what it leads to is put in front. -/
def reachFrom (next : String → List String) (unvisited pending : List String) : List String :=
  match pending with
  | [] => []
  | name :: rest =>
    if _h : name ∈ unvisited then
      name :: reachFrom next (without name unvisited) (next name ++ rest)
    else reachFrom next unvisited rest
termination_by (unvisited.length, pending.length)
decreasing_by
  · exact Prod.Lex.left _ _ (length_without_lt _h)
  · exact Prod.Lex.right _ (Nat.lt_succ_self _)

/-- What `targets` gives for the model of that name. -/
def targetsOf (graph : Graph) (targets : Model → List String) (name : String) : List String :=
  match graph.get? name with
  | some model => targets model
  | none => []

/-- The names of the models reached from the given ones, where each model leads to its targets. -/
def reach (graph : Graph) (targets : Model → List String) (start : List String) : List String :=
  reachFrom (graph.targetsOf targets) graph.names start

/-- Whether `target` is `start` itself or where a model reached from `start` leads. -/
def leadsTo (graph : Graph) (targets : Model → List String) (start target : String) : Bool :=
  start == target ||
    (graph.reach targets [start]).any fun name => (graph.targetsOf targets name).contains target

end Graph

end ClientForge
