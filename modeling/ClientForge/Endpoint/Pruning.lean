/-
  The part of a graph that endpoints need.

  A model is kept if its name is reached from the types that the endpoints mention, along field
  types, aliases and composed models.  Everything kept is kept as it is.
-/
import ClientForge.Endpoint.Basic
import ClientForge.Model.Reach

namespace ClientForge

/-- The names that the types of the endpoints mention innermost. -/
def mentionedNames (endpoints : List Endpoint) : List String :=
  endpoints.flatMap fun endpoint => endpoint.types.filterMap TypeToken.innermost?

/-- The part of the graph that the endpoints need. -/
def Graph.prune (graph : Graph) (endpoints : List Endpoint) : Graph :=
  graph.filter (graph.reach Model.references (mentionedNames endpoints)).contains

end ClientForge
