/-
  Finite sets of names, kept in strictly increasing order.

  The order is part of the type, so two sets with the same members are the same set and walking
  through one always gives the same sequence.  Insertion is structural recursion; what it does to
  membership is one lemma, which is all that later proofs need.
-/
namespace ClientForge

/-- A finite set of names in increasing order. -/
structure Names where
  toList : List String
  sorted : toList.Pairwise (· < ·)

namespace Names

/-! ## Insertion into an ordered list -/

/-- The list with `name` at its place, unless it is there already. -/
def insertList (name : String) : List String → List String
  | [] => [name]
  | other :: rest =>
    if name < other then name :: other :: rest
    else if name = other then other :: rest
    else other :: insertList name rest

theorem mem_insertList {name x : String} {xs : List String} :
    x ∈ insertList name xs ↔ x = name ∨ x ∈ xs := by
  induction xs with
  | nil => simp [insertList]
  | cons other rest ih =>
    simp only [insertList]
    split
    · simp
    · split
      · rename_i h
        subst h
        simp
      · simp only [List.mem_cons, ih]
        exact or_left_comm

theorem sorted_insertList {name : String} {xs : List String} (h : xs.Pairwise (· < ·)) :
    (insertList name xs).Pairwise (· < ·) := by
  induction xs with
  | nil => simp [insertList]
  | cons other rest ih =>
    have hrest := List.pairwise_cons.1 h
    simp only [insertList]
    split
    · rename_i hlt
      refine List.pairwise_cons.2 ⟨fun x hx => ?_, h⟩
      rcases List.mem_cons.1 hx with rfl | hx
      · exact hlt
      · exact String.lt_trans hlt (hrest.1 x hx)
    · split
      · exact h
      · rename_i hlt hne
        refine List.pairwise_cons.2 ⟨fun x hx => ?_, ih hrest.2⟩
        rcases mem_insertList.1 hx with rfl | hx
        · exact Std.lt_of_le_of_ne (String.not_lt.1 hlt) (Ne.symm hne)
        · exact hrest.1 x hx

/-! ## The set -/

/-- No name. -/
def empty : Names := ⟨[], List.Pairwise.nil⟩

/-- The set with one more name. -/
def insert (names : Names) (name : String) : Names :=
  ⟨insertList name names.toList, sorted_insertList names.sorted⟩

/-- Whether the name is in the set. -/
def contains (names : Names) (name : String) : Bool := names.toList.contains name

/-- The set with the names of a list added. -/
def insertAll (names : Names) (new : List String) : Names := new.foldl insert names

/-- The names of a list. -/
def ofList (names : List String) : Names := empty.insertAll names

/-- How many names there are. -/
def size (names : Names) : Nat := names.toList.length

/-- Whether there is no name. -/
def isEmpty (names : Names) : Bool := names.toList.isEmpty

instance : Membership String Names := ⟨fun names name => name ∈ names.toList⟩

instance : Inhabited Names := ⟨empty⟩

instance : DecidableEq Names := fun a b =>
  decidable_of_iff (a.toList = b.toList) ⟨fun h => by cases a; cases b; cases h; rfl, fun h => h ▸ rfl⟩

theorem mem_def {names : Names} {name : String} : name ∈ names ↔ name ∈ names.toList := Iff.rfl

@[simp] theorem contains_iff {names : Names} {name : String} :
    names.contains name = true ↔ name ∈ names := by
  simp [contains, mem_def]

/-- **What insertion does:** it adds the one name. -/
@[simp] theorem mem_insert {names : Names} {name x : String} :
    x ∈ names.insert name ↔ x = name ∨ x ∈ names := mem_insertList

@[simp] theorem not_mem_empty {x : String} : x ∉ empty := by simp [mem_def, empty]

@[simp] theorem mem_insertAll {names : Names} {new : List String} {x : String} :
    x ∈ names.insertAll new ↔ x ∈ names ∨ x ∈ new := by
  induction new generalizing names with
  | nil => simp [insertAll]
  | cons n new ih =>
    have := @ih (names.insert n)
    simp only [insertAll, List.foldl_cons] at this ⊢
    rw [this]
    simp only [mem_insert, List.mem_cons]
    constructor
    · rintro ((h | h) | h)
      · exact Or.inr (Or.inl h)
      · exact Or.inl h
      · exact Or.inr (Or.inr h)
    · rintro (h | h | h)
      · exact Or.inl (Or.inr h)
      · exact Or.inl (Or.inl h)
      · exact Or.inr h

@[simp] theorem mem_ofList {names : List String} {x : String} : x ∈ ofList names ↔ x ∈ names := by
  simp [ofList]

example : (ofList ["b", "a", "b"]).toList = ["a", "b"] := by decide

end Names

end ClientForge
