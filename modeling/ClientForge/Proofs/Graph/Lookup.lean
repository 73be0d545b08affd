/-
  What a map or a graph gives for a name, after each way of making it.

  A map is its row of entries in key order, and looking a key up is the same as finding the entry in
  the row (`Table.get?_eq_some_iff`).  The order is strict, so no key stands there twice, and this is
  the only place where that is needed: everywhere else a map is told by what it gives.

  From this one fact follow

  * the lookups in a map that is filtered by its keys, and in one whose values are changed;
  * for a graph, which is a map of models under their own names, that the models walked in order are
    exactly what it gives for their names (`Graph.mem_toList`), and that its names are in strictly
    increasing order (`Graph.names_pairwise`).

  Statements about a generated module are statements about the models in their order, and statements
  about types are about what a name leads to; the lemmas of the second section carry the one over into
  the other.
-/
import ClientForge.Model.Graph

namespace ClientForge

universe u

namespace Table

variable {α : Type u}

/-! ## Lookup as membership -/

/-- In a row of strictly increasing keys, looking up is finding the entry. -/
theorem lookupList_eq_some_iff {key : String} {value : α} {xs : List (String × α)}
    (hs : xs.Pairwise (fun a b => a.1 < b.1)) :
    lookupList key xs = some value ↔ (key, value) ∈ xs := by
  induction xs with
  | nil => simp [lookupList]
  | cons entry rest ih =>
    obtain ⟨hhead, htail⟩ := List.pairwise_cons.1 hs
    by_cases h : key = entry.1
    · -- the row is strictly increasing, so no later entry has the key of the first one
      have hrest : (key, value) ∉ rest := by
        intro hmem
        have hlt : entry.1 < key := hhead _ hmem
        rw [h] at hlt
        exact String.lt_irrefl _ hlt
      simp only [lookupList, if_pos h, Option.some.injEq, List.mem_cons, hrest, or_false]
      constructor
      · intro hv
        rw [h, ← hv]
      · intro hv
        rw [← hv]
    · have hne : (key, value) ≠ entry := by
        intro heq
        exact h (by rw [← heq])
      simp [lookupList, h, ih htail, hne]

/-- **Lookup is membership:** a key gives a value exactly if the row holds the entry. -/
theorem get?_eq_some_iff {table : Table α} {key : String} {value : α} :
    table.get? key = some value ↔ (key, value) ∈ table.entries :=
  lookupList_eq_some_iff table.sorted

/-- What a key gives is a value of the map. -/
theorem mem_values_of_get? {table : Table α} {key : String} {value : α}
    (h : table.get? key = some value) : value ∈ table.values :=
  List.mem_map.2 ⟨(key, value), get?_eq_some_iff.1 h, rfl⟩

/-- A map has a key if it is among its keys. -/
theorem contains_iff_mem_keys {table : Table α} {key : String} :
    table.contains key = true ↔ key ∈ table.keys := by
  simp only [contains, Option.isSome_iff_exists, get?_eq_some_iff, keys, List.mem_map]
  constructor
  · rintro ⟨value, h⟩
    exact ⟨(key, value), h, rfl⟩
  · rintro ⟨entry, h, rfl⟩
    exact ⟨entry.2, h⟩

/-- A map that is filtered by its keys gives what it gave, for the keys that are kept. -/
theorem get?_filter (table : Table α) (keep : String → Bool) (key : String) :
    (table.filter fun k _ => keep k).get? key = if keep key then table.get? key else none := by
  apply Option.ext
  intro value
  rw [get?_eq_some_iff]
  simp only [filter, List.mem_filter]
  by_cases h : keep key = true
  · simp [h, get?_eq_some_iff]
  · simp [h]

/-- A change of values commutes with looking up, in a row of entries. -/
theorem lookupList_map {β : Type u} (f : α → β) (key : String) (xs : List (String × α)) :
    lookupList key (xs.map fun e => (e.1, f e.2)) = (lookupList key xs).map f := by
  induction xs with
  | nil => rfl
  | cons entry rest ih =>
    rw [List.map_cons, lookupList, lookupList, ih]
    split <;> rfl

/-- A change of values commutes with looking up. -/
theorem get?_map {β : Type u} (f : α → β) (table : Table α) (key : String) :
    (table.map f).get? key = (table.get? key).map f :=
  lookupList_map f key table.entries

/-- The values of a changed map are the changed values. -/
theorem values_map {β : Type u} (f : α → β) (table : Table α) :
    (table.map f).values = table.values.map f := by
  simp [values, map]

/-- Its keys are the same. -/
theorem keys_map {β : Type u} (f : α → β) (table : Table α) : (table.map f).keys = table.keys := by
  simp [keys, map]

/-- The keys of a map are in strictly increasing order. -/
theorem keys_pairwise (table : Table α) : table.keys.Pairwise (· < ·) :=
  List.pairwise_map.2 table.sorted

end Table

namespace Graph

/-! ## Lookup in a graph -/

/-- A model is found under its own name. -/
theorem name_of_get? {graph : Graph} {name : String} {model : Model}
    (h : graph.get? name = some model) : model.name = name :=
  graph.named (name, model) (Table.get?_eq_some_iff.1 h)

/-- The models in order are what the graph gives for their own names. -/
theorem mem_toList {graph : Graph} {model : Model} :
    model ∈ graph.toList ↔ graph.get? model.name = some model := by
  simp only [toList, Table.values, List.mem_map]
  constructor
  · rintro ⟨entry, hmem, rfl⟩
    rw [graph.named entry hmem]
    exact Table.get?_eq_some_iff.2 hmem
  · intro h
    exact ⟨(model.name, model), Table.get?_eq_some_iff.1 h, rfl⟩

/-- A graph has a name if it gives a model for it. -/
theorem contains_iff {graph : Graph} {name : String} :
    graph.contains name = true ↔ ∃ model, graph.get? name = some model :=
  Option.isSome_iff_exists

/-- A graph knows the names of its models. -/
theorem contains_iff_exists_mem {graph : Graph} {name : String} :
    graph.contains name = true ↔ ∃ model ∈ graph.toList, model.name = name := by
  rw [contains_iff]
  constructor
  · rintro ⟨model, h⟩
    obtain rfl : model.name = name := name_of_get? h
    exact ⟨model, mem_toList.2 h, rfl⟩
  · rintro ⟨model, hmodel, rfl⟩
    exact ⟨model, mem_toList.1 hmodel⟩

/-- The names of a graph are those that it gives a model for. -/
theorem mem_names {graph : Graph} {name : String} :
    name ∈ graph.names ↔ ∃ model, graph.get? name = some model := by
  rw [names, ← Table.contains_iff_mem_keys]
  exact contains_iff

/-- The names of a graph are in strictly increasing order. -/
theorem names_pairwise (graph : Graph) : graph.names.Pairwise (· < ·) :=
  graph.models.keys_pairwise

/-- The models in order have the names in order. -/
theorem map_name_toList (graph : Graph) : graph.toList.map Model.name = graph.names := by
  simp only [toList, Table.values, names, Table.keys, List.map_map]
  apply List.map_congr_left
  intro entry hmem
  exact graph.named entry hmem

/-- A graph that is filtered by its names gives what it gave, for the names that are kept. -/
theorem get?_filter (graph : Graph) (keep : String → Bool) (name : String) :
    (graph.filter keep).get? name = if keep name then graph.get? name else none :=
  graph.models.get?_filter keep name

end Graph

end ClientForge
