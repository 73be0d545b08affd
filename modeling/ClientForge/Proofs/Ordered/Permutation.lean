/-
  Rows that are read member by member, and what is left of their order.

  Much of a document is rows: the members of an object, the items of a list, the operations of a route.
  Reading a row gives a result if each member gives one, and then the results in order
  (`mapM_eq_ite`).  From this two things follow that decoding needs.

  * **Another order.**  Whether a row is read does not depend on the order of its members, and what is
    read of a reordered row is reordered in the same way (`mapM_perm`).
  * **Related members.**  If the members of two rows are read to related results, so are the rows
    (`mapM_rel`).  Both at once is what happens to the members of an object when these are reordered and
    so are the objects inside them (`mapM_reordered`).

  A result is an option here, and two options are related if both are missing or both are there and
  related; a step that goes on from related results may go on alike (`bind_eq_of_rel`) or to related
  ones (`bind_rel`).

  A map is made from a row by putting in one entry after the other, and is determined by what it gives
  for each key.  So it is the same for every order of the row if no key stands twice (`ofList_perm`);
  with a key that stands twice the last one would count, and the order with it.
-/
import Mathlib.Data.List.Forall2
import Mathlib.Data.List.Nodup
import ClientForge.Proofs.Graph.Lookup

namespace ClientForge

section Rows

variable {α β γ δ : Type} {xs : List α} {ys : List β}

/-- Options that are related are so by any weaker relation. -/
theorem rel_imp {related related' : α → β → Prop} {x : Option α} {y : Option β}
    (h : Option.Rel related x y) (himp : ∀ a b, related a b → related' a b) :
    Option.Rel related' x y := by
  cases h with
  | none => exact .none
  | some hab => exact .some (himp _ _ hab)

/-- What goes on alike from related results gives the same. -/
theorem bind_eq_of_rel {related : α → β → Prop} {x : Option α} {y : Option β}
    (h : Option.Rel related x y) {next : α → Option γ} {next' : β → Option γ}
    (hnext : ∀ a b, related a b → next a = next' b) : x.bind next = y.bind next' := by
  cases h with
  | none => rfl
  | some hab => exact hnext _ _ hab

/-- What goes on from related results to related ones. -/
theorem bind_rel {related : α → β → Prop} {related' : γ → δ → Prop} {x : Option α} {y : Option β}
    (h : Option.Rel related x y) {next : α → Option γ} {next' : β → Option δ}
    (hnext : ∀ a b, related a b → Option.Rel related' (next a) (next' b)) :
    Option.Rel related' (x.bind next) (y.bind next') := by
  cases h with
  | none => exact .none
  | some hab => exact hnext _ _ hab

/-- **A row is read by reading each member.** -/
theorem mapM_eq_ite (read : α → Option γ) (xs : List α) :
    xs.mapM read =
      if xs.all (fun x => (read x).isSome) then some (xs.filterMap read) else none := by
  induction xs with
  | nil => rfl
  | cons x rest ih =>
    rw [List.mapM_cons, ih, List.all_cons, List.filterMap_cons]
    cases read x with
    | none => rfl
    | some value =>
      by_cases hrest : rest.all (fun x => (read x).isSome) = true
      · simp [hrest]
      · simp [hrest]

/-- A row each of whose members is read to a known result. -/
theorem mapM_some_map (read : α → Option γ) (f : α → γ) (xs : List α)
    (h : ∀ x ∈ xs, read x = some (f x)) : xs.mapM read = some (xs.map f) := by
  induction xs with
  | nil => rfl
  | cons x rest ih =>
    rw [List.mapM_cons, h x List.mem_cons_self,
      ih fun y hy => h y (List.mem_cons_of_mem _ hy)]
    rfl

/-- Rows whose members are read to related results give related rows. -/
theorem mapM_rel {related : γ → δ → Prop} {read : α → Option γ} {read' : β → Option δ}
    (h : List.Forall₂ (fun x y => Option.Rel related (read x) (read' y)) xs ys) :
    Option.Rel (List.Forall₂ related) (xs.mapM read) (ys.mapM read') := by
  induction h with
  | nil => exact .some .nil
  | @cons x y xs ys hfirst _ ih =>
    rw [List.mapM_cons, List.mapM_cons]
    generalize read x = first at hfirst
    generalize read' y = first' at hfirst
    cases hfirst with
    | none => exact .none
    | some hfirst =>
      generalize xs.mapM read = rest at ih
      generalize ys.mapM read' = rest' at ih
      cases ih with
      | none => exact .none
      | some hrest => exact .some (.cons hfirst hrest)

/-- Rows whose members are read alike are read alike. -/
theorem mapM_congr {read : α → Option γ} {read' : β → Option γ}
    (h : List.Forall₂ (fun x y => read x = read' y) xs ys) : xs.mapM read = ys.mapM read' := by
  induction h with
  | nil => rfl
  | cons hfirst _ ih => rw [List.mapM_cons, List.mapM_cons, hfirst, ih]

/-- **A row in another order** is read or refused alike, and gives the results in that order. -/
theorem mapM_perm {read : α → Option γ} {xs xs' : List α} (h : xs.Perm xs') :
    Option.Rel List.Perm (xs.mapM read) (xs'.mapM read) := by
  rw [mapM_eq_ite, mapM_eq_ite, h.all_eq]
  split
  · exact .some (h.filterMap read)
  · exact .none

/-- What each result says of its member, the row of results says of the row. -/
theorem map_of_mapM {read : α → Option β} {f : α → γ} {g : β → γ} (h : xs.mapM read = some ys)
    (hread : ∀ x ∈ xs, ∀ y, read x = some y → g y = f x) : ys.map g = xs.map f := by
  induction xs generalizing ys with
  | nil =>
    cases h
    rfl
  | cons x rest ih =>
    rw [List.mapM_cons] at h
    obtain ⟨y, hy, h⟩ := Option.bind_eq_some_iff.1 h
    obtain ⟨others, hothers, h⟩ := Option.bind_eq_some_iff.1 h
    cases h
    rw [List.map_cons, List.map_cons, hread x List.mem_cons_self y hy,
      ih hothers fun z hz => hread z (List.mem_cons_of_mem _ hz)]

/-- **A reordered row with related members:** the results are reordered and related. -/
theorem mapM_reordered {related : γ → δ → Prop} {read : α → Option γ} {read' : β → Option δ}
    {middle : List α} (hperm : xs.Perm middle)
    (h : List.Forall₂ (fun x y => Option.Rel related (read x) (read' y)) middle ys) :
    Option.Rel (fun results results' => xs.mapM read = some results ∧
        ∃ between, results.Perm between ∧ List.Forall₂ related between results')
      (xs.mapM read) (ys.mapM read') := by
  -- by way of `middle`, which has the members of the first row in the order of the second
  have hfirst : Option.Rel List.Perm (xs.mapM read) (middle.mapM read) := mapM_perm hperm
  have hsecond := mapM_rel h
  generalize xs.mapM read = results at hfirst
  generalize middle.mapM read = between at hfirst hsecond
  generalize ys.mapM read' = results' at hsecond
  cases hfirst with
  | none =>
    cases hsecond
    exact .none
  | some hfirst => cases hsecond with
    | some hsecond => exact .some ⟨rfl, _, hfirst, hsecond⟩

/-- Reading in two rounds is reading each member in two rounds. -/
theorem mapM_bind (read : α → Option β) (next : β → Option γ) (xs : List α) :
    (xs.mapM read).bind (fun ys => ys.mapM next) = xs.mapM fun x => (read x).bind next := by
  induction xs with
  | nil => rfl
  | cons x rest ih =>
    rw [List.mapM_cons, List.mapM_cons, ← ih]
    cases read x with
    | none => rfl
    | some y => cases rest.mapM read with
      | none => cases hy : next y <;> simp [hy]
      | some ys => simp [List.mapM_cons]

end Rows

namespace Table

variable {α : Type}

/-- A map is determined by what it gives for each key. -/
theorem ext_get? {table other : Table α} (h : ∀ key, table.get? key = other.get? key) :
    table = other := by
  have hmem : ∀ entry, entry ∈ table.entries ↔ entry ∈ other.entries := by
    rintro ⟨key, value⟩
    rw [← get?_eq_some_iff, ← get?_eq_some_iff, h]
  have hnodup : ∀ table : Table α, table.entries.Nodup := by
    intro table
    refine table.sorted.imp fun {first second} hlt heq => ?_
    rw [heq] at hlt
    exact String.lt_irrefl _ hlt
  have hperm := (List.perm_ext_iff_of_nodup (hnodup table) (hnodup other)).2 hmem
  have heq : table.entries = other.entries :=
    hperm.eq_of_pairwise (fun _ _ _ _ hlt hgt => absurd (String.lt_trans hlt hgt)
      (String.lt_irrefl _)) table.sorted other.sorted
  cases table
  cases other
  cases heq
  rfl

/-- **The order of a row does not matter** to the map made from it, if no key stands twice. -/
theorem ofList_perm {xs ys : List (String × α)} (hperm : xs.Perm ys)
    (hnodup : (xs.map Prod.fst).Nodup) : ofList xs = ofList ys := by
  -- insertions under two keys commute, and under one key there is one entry only
  refine hperm.foldl_eq' (fun first hfirst second hsecond table => ?_) empty
  by_cases heq : first = second
  · rw [heq]
  · have hne : first.1 ≠ second.1 := fun hkey =>
      heq (List.inj_on_of_nodup_map hnodup hfirst hsecond hkey)
    refine ext_get? fun key => ?_
    simp only [get?_insert]
    by_cases hkey : key = first.1
    · simp [hkey, hne]
    · simp [hkey]

end Table

end ClientForge
