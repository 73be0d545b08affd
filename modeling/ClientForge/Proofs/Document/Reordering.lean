/-
  Trees that differ in the order of members only.

  In a JSON text the members of an object may stand in any order, and the tree that is read of the
  text keeps the order in which they stand.  Three relations say what it means for two trees to
  differ in that order alone:

  1. `Reordered` — the one becomes the other by reordering the members of its tables, at any depth.
     The order of lists stays as it is.  A table is reordered in two steps, first as a whole and then
     value by value, since a permutation of the members says nothing about what stands inside them.
  2. `DistinctKeys` — no table repeats a key.  Of two members under one key only the later one counts,
     so for a tree that repeats a key the order does matter, and the statement would be false.
  3. `IsJson` — the tree is one that a text can have.  A tree may come from other formats too, with
     keys that are not texts and with scalars whose type is still open; of these nothing is said.

  Together they make two trees twins (`Twins`, by `IsJson.twins`), which is the form that the proofs
  about decoding use: it carries what is known of each table along to the place where it is read.
-/
import ClientForge.Document.Decode
import ClientForge.Proofs.Ordered.Permutation

namespace ClientForge

/-! ## Trees -/

namespace Node

/-- The node is the key of a member in a JSON text. -/
inductive IsKey : Node → Prop
  | text (s : String) : IsKey (.scalar (.text s))
  | unreadable : IsKey (.scalar .unreadable)

/-- The tree is one that a JSON text can have: its scalars have a type, and its tables are keyed by
texts. -/
inductive IsJson : Node → Prop
  | scalar {s : Scalar} (h : ∀ w, s ≠ .written w) : IsJson (.scalar s)
  | list {items : List Node} (h : ∀ item ∈ items, IsJson item) : IsJson (.list .typed items)
  | table {entries : List (Node × Node)} (hkeys : ∀ key ∈ entries.map Prod.fst, IsKey key)
      (h : ∀ entry ∈ entries, IsJson entry.2) : IsJson (.table .typed entries)

/-- No table in the tree repeats a key. -/
inductive DistinctKeys : Node → Prop
  | scalar (s : Scalar) : DistinctKeys (.scalar s)
  | list {origin : Origin} {items : List Node} (h : ∀ item ∈ items, DistinctKeys item) :
      DistinctKeys (.list origin items)
  | table {origin : Origin} {entries : List (Node × Node)}
      (hkeys : ((entries.map Prod.fst).filterMap Decode.typedText?).Nodup)
      (h : ∀ entry ∈ entries, DistinctKeys entry.2) : DistinctKeys (.table origin entries)

/-- The one tree becomes the other by reordering the members of tables, at any depth.  The order of
lists stays. -/
inductive Reordered : Node → Node → Prop
  | scalar (s : Scalar) : Reordered (.scalar s) (.scalar s)
  | list {origin : Origin} {items items' : List Node} (h : List.Forall₂ Reordered items items') :
      Reordered (.list origin items) (.list origin items')
  | table {origin : Origin} {entries middle entries' : List (Node × Node)}
      (hperm : entries.Perm middle) (hkeys : middle.map Prod.fst = entries'.map Prod.fst)
      (h : List.Forall₂ Reordered (middle.map Prod.snd) (entries'.map Prod.snd)) :
      Reordered (.table origin entries) (.table origin entries')

/-- Trees of JSON texts that are the same but for the order of members, of which no table has two
with one key. -/
inductive Twins : Node → Node → Prop
  | scalar {s : Scalar} (h : ∀ w, s ≠ .written w) : Twins (.scalar s) (.scalar s)
  | list {items items' : List Node} (h : List.Forall₂ Twins items items') :
      Twins (.list .typed items) (.list .typed items')
  | table {entries middle entries' : List (Node × Node)}
      (hjson : ∀ key ∈ entries.map Prod.fst, IsKey key)
      (hdistinct : ((entries.map Prod.fst).filterMap Decode.typedText?).Nodup)
      (hperm : entries.Perm middle) (hkeys : middle.map Prod.fst = entries'.map Prod.fst)
      (h : List.Forall₂ Twins (middle.map Prod.snd) (entries'.map Prod.snd)) :
      Twins (.table .typed entries) (.table .typed entries')

/-- Rows related by one relation are related by another that it implies for the members of the
first row. -/
theorem forall₂_imp_of_mem {α β : Type} {related related' : α → β → Prop} {xs : List α}
    {ys : List β} (h : List.Forall₂ related xs ys)
    (himp : ∀ x ∈ xs, ∀ y, related x y → related' x y) : List.Forall₂ related' xs ys := by
  induction h with
  | nil => exact .nil
  | cons hfirst _ ih =>
    refine .cons (himp _ List.mem_cons_self _ hfirst) (ih fun x hx => ?_)
    exact himp x (List.mem_cons_of_mem _ hx)

/-- **Reordered trees of a text are twins,** if none of their tables repeats a key. -/
theorem IsJson.twins {node node' : Node} (hjson : node.IsJson) (hdistinct : node.DistinctKeys)
    (h : node.Reordered node') : node.Twins node' := by
  induction hjson generalizing node' with
  | scalar hs =>
    cases h
    exact .scalar hs
  | list _ ih =>
    cases hdistinct with
    | list hdistinct => cases h with
      | list h =>
        refine .list (forall₂_imp_of_mem h fun item hitem _ hr => ?_)
        exact ih item hitem (hdistinct item hitem) hr
  | table hkey _ ih =>
    cases hdistinct with
    | table hkeys hdistinct => cases h with
      | table hperm hsame h =>
        refine .table hkey hkeys hperm hsame (forall₂_imp_of_mem h fun value hvalue _ hr => ?_)
        obtain ⟨entry, hentry, rfl⟩ := List.mem_map.1 hvalue
        have hentry := hperm.mem_iff.2 hentry
        exact ih entry hentry (hdistinct entry hentry) hr

end Node

end ClientForge
