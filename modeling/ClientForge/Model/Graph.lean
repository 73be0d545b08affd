/-
  The models of a document, each stored under its own name and walked in name order.

  The graph may be cyclic and may name models it does not hold.  Following aliases to a scalar
  therefore takes at most one step more than there are models: a longer chain of names repeats
  one, and then never ends.
-/
import ClientForge.Model.Basic

namespace ClientForge

/-- Models by name. -/
structure Graph where
  models : Table Model
  /-- Every model is stored under its own name. -/
  named : ∀ entry ∈ models.entries, entry.2.name = entry.1

namespace Graph

/-- No model. -/
def empty : Graph := ⟨.empty, by simp [Table.empty]⟩

/-- The graph with a model added, replacing one of the same name. -/
def insert (graph : Graph) (model : Model) : Graph where
  models := graph.models.insert model.name model
  named := by
    intro entry h
    rcases Table.mem_insertList h with h | h
    · subst h; rfl
    · exact graph.named entry h

/-- The graph with a model added, unless one of that name is there: the first definition stays. -/
def insertNew (graph : Graph) (model : Model) : Graph :=
  if graph.models.contains model.name then graph else graph.insert model

/-- The graph with the models of a list added, later ones replacing earlier ones. -/
def insertAll (graph : Graph) (models : List Model) : Graph := models.foldl insert graph

/-- The graph of a list of models. -/
def ofList (models : List Model) : Graph := empty.insertAll models

/-- The model of that name. -/
def get? (graph : Graph) (name : String) : Option Model := graph.models.get? name

/-- Whether there is a model of that name. -/
def contains (graph : Graph) (name : String) : Bool := graph.models.contains name

/-- The models in the order of their names. -/
def toList (graph : Graph) : List Model := graph.models.values

/-- The names of the models in order. -/
def names (graph : Graph) : List String := graph.models.keys

/-- How many models there are. -/
def size (graph : Graph) : Nat := graph.models.size

/-- Whether there is no model. -/
def isEmpty (graph : Graph) : Bool := graph.models.isEmpty

/-- The models whose names satisfy `keep`. -/
def filter (graph : Graph) (keep : String → Bool) : Graph where
  models := graph.models.filter fun name _ => keep name
  named := fun entry h => graph.named entry (List.mem_filter.1 h).1

/-- The scalar reached from a token in at most `steps` looks, along aliases. -/
def scalarWithin (graph : Graph) : Nat → TypeToken → Option Primitive
  | 0, _ => none
  | _ + 1, .primitive p => some p
  | steps + 1, .named name =>
    match graph.get? name with
    | some model => model.aliasOf.bind (graph.scalarWithin steps)
    | none => none
  | _ + 1, _ => none

/-- The scalar that a token stands for through aliases, if any. -/
def scalarOf? (graph : Graph) (token : TypeToken) : Option Primitive :=
  graph.scalarWithin (graph.size + 1) token

/-- Whether the name is that of an enumeration of texts. -/
def isStringEnum (graph : Graph) (name : String) : Bool :=
  (graph.get? name).any Model.isStringEnum

theorem get?_insert (graph : Graph) (model : Model) (name : String) :
    (graph.insert model).get? name = if name = model.name then some model else graph.get? name :=
  Table.get?_insert ..

end Graph

end ClientForge
