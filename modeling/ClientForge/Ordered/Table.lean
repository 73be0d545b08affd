/-
  Finite maps from text keys, their entries kept in strictly increasing key order.

  A document's maps, the models of a graph and the fields of a model are all of this kind: they
  are walked in key order, and a later definition of a key replaces an earlier one.  The order is
  part of the type, so a map is determined by what it gives for each key.
-/
namespace ClientForge

universe u v

/-- A finite map from text to `α`. -/
structure Table (α : Type u) where
  entries : List (String × α)
  sorted : entries.Pairwise (fun a b => a.1 < b.1)

namespace Table

variable {α : Type u} {β : Type v}

/-! ## Insertion into an ordered list -/

/-- The list with the entry at its place, replacing one of the same key. -/
def insertList (key : String) (value : α) : List (String × α) → List (String × α)
  | [] => [(key, value)]
  | entry :: rest =>
    if key < entry.1 then (key, value) :: entry :: rest
    else if key = entry.1 then (key, value) :: rest
    else entry :: insertList key value rest

theorem mem_insertList {key : String} {value : α} {e : String × α} {xs : List (String × α)}
    (h : e ∈ insertList key value xs) : e = (key, value) ∨ e ∈ xs := by
  induction xs with
  | nil => simpa [insertList] using h
  | cons entry rest ih =>
    simp only [insertList] at h
    split at h
    · simpa using h
    · split at h
      · rcases List.mem_cons.1 h with h | h
        · exact Or.inl h
        · exact Or.inr (List.mem_cons_of_mem _ h)
      · rcases List.mem_cons.1 h with h | h
        · exact Or.inr (h ▸ List.mem_cons_self)
        · rcases ih h with h | h
          · exact Or.inl h
          · exact Or.inr (List.mem_cons_of_mem _ h)

theorem sorted_insertList {key : String} {value : α} {xs : List (String × α)}
    (h : xs.Pairwise (fun a b => a.1 < b.1)) :
    (insertList key value xs).Pairwise (fun a b => a.1 < b.1) := by
  induction xs with
  | nil => simp [insertList]
  | cons entry rest ih =>
    have hrest := List.pairwise_cons.1 h
    simp only [insertList]
    split
    · rename_i hlt
      refine List.pairwise_cons.2 ⟨fun x hx => ?_, h⟩
      rcases List.mem_cons.1 hx with rfl | hx
      · exact hlt
      · exact String.lt_trans hlt (hrest.1 x hx)
    · split
      · rename_i heq
        refine List.pairwise_cons.2 ⟨fun x hx => ?_, hrest.2⟩
        simpa [heq] using hrest.1 x hx
      · rename_i hlt hne
        refine List.pairwise_cons.2 ⟨fun x hx => ?_, ih hrest.2⟩
        rcases mem_insertList hx with rfl | hx
        · exact Std.lt_of_le_of_ne (String.not_lt.1 hlt) (Ne.symm hne)
        · exact hrest.1 x hx

/-- The value stored with a key. -/
def lookupList (key : String) : List (String × α) → Option α
  | [] => none
  | entry :: rest => if key = entry.1 then some entry.2 else lookupList key rest

theorem lookup_insertList (key other : String) (value : α) (xs : List (String × α)) :
    lookupList other (insertList key value xs) =
      if other = key then some value else lookupList other xs := by
  induction xs with
  | nil => simp [insertList, lookupList]
  | cons entry rest ih =>
    simp only [insertList]
    split
    · simp [lookupList]
    · split
      · rename_i heq
        subst heq
        by_cases h : other = entry.1 <;> simp [lookupList, h]
      · rename_i hne
        by_cases h : other = entry.1
        · subst h
          simp [lookupList, Ne.symm hne]
        · simp [lookupList, h, ih]

/-! ## The map -/

/-- No entry. -/
def empty : Table α := ⟨[], List.Pairwise.nil⟩

/-- The map with `key` giving `value`. -/
def insert (table : Table α) (key : String) (value : α) : Table α :=
  ⟨insertList key value table.entries, sorted_insertList table.sorted⟩

/-- What the map gives for a key. -/
def get? (table : Table α) (key : String) : Option α := lookupList key table.entries

/-- Whether the map has the key. -/
def contains (table : Table α) (key : String) : Bool := (table.get? key).isSome

/-- The keys in order. -/
def keys (table : Table α) : List String := table.entries.map Prod.fst

/-- The values in the order of their keys. -/
def values (table : Table α) : List α := table.entries.map Prod.snd

/-- How many keys there are. -/
def size (table : Table α) : Nat := table.entries.length

/-- Whether there is no key. -/
def isEmpty (table : Table α) : Bool := table.entries.isEmpty

/-- The entries of a list; of two with one key the later counts. -/
def ofList (entries : List (String × α)) : Table α :=
  entries.foldl (fun table entry => table.insert entry.1 entry.2) empty

/-- The entries that satisfy `p`. -/
def filter (table : Table α) (p : String → α → Bool) : Table α :=
  ⟨table.entries.filter fun e => p e.1 e.2, table.sorted.sublist List.filter_sublist⟩

/-- The map with every value changed by `f`. -/
def map (f : α → β) (table : Table α) : Table β :=
  ⟨table.entries.map fun e => (e.1, f e.2),
    List.pairwise_map.2 (table.sorted.imp fun h => h)⟩

instance : Inhabited (Table α) := ⟨empty⟩

instance [DecidableEq α] : DecidableEq (Table α) := fun a b =>
  decidable_of_iff (a.entries = b.entries)
    ⟨fun h => by cases a; cases b; cases h; rfl, fun h => h ▸ rfl⟩

@[simp] theorem get?_empty (key : String) : (empty : Table α).get? key = none := rfl

/-- **What insertion does:** the key gives the new value, every other key what it gave before. -/
theorem get?_insert (table : Table α) (key other : String) (value : α) :
    (table.insert key value).get? other = if other = key then some value else table.get? other :=
  lookup_insertList key other value table.entries

@[simp] theorem get?_insert_self (table : Table α) (key : String) (value : α) :
    (table.insert key value).get? key = some value := by simp [get?_insert]

example : (ofList [("b", 1), ("a", 2), ("b", 3)]).entries = [("a", 2), ("b", 3)] := by decide

end Table

end ClientForge
