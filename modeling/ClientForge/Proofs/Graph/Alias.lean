/-
  Following aliases to a scalar is exact, although it is bounded.

  A model may be nothing but another name for a token, and that token the name of such a model again.
  What scalar a token stands for is found by a bounded look: as many steps as the graph has models,
  and one more (`scalarOf?`).  The bound is there because aliases may go in circles; the question is
  whether it ever cuts off a chain that would have ended at a scalar.

  It does not.  An alias path (`AliasPath`) is the row of names between a token and the scalar behind
  it.

  1. From one token there is at most one such path, since a name has one model and a model is another
     name for at most one token (`AliasPath.unique`).
  2. So no name stands on it twice: the path from its second occurrence would be the path from the
     first one, and shorter (`AliasPath.nodup`).
  3. A path is therefore no longer than the graph is large (`AliasPath.length_le_size`), and the bound
     of one step more never cuts one off (`scalarOf?_eq_some_iff`).

  What the look is bounded by thus plays no part anywhere else: later modules speak of paths, or of
  chains of steps, and never of the number of steps.
-/
import ClientForge.Proofs.Graph.Lookup

namespace ClientForge

namespace Graph

/-! ## Alias paths -/

/-- `AliasPath graph token names p` — through the aliases of the models named, one after the
other, the token leads to the scalar. -/
inductive AliasPath (graph : Graph) : TypeToken → List String → Primitive → Prop
  | scalar (p : Primitive) : AliasPath graph (.primitive p) [] p
  | viaAlias {name : String} {model : Model} {token : TypeToken} {names : List String}
      {p : Primitive} (hmodel : graph.get? name = some model) (ha : model.aliasOf = some token)
      (h : AliasPath graph token names p) : AliasPath graph (.named name) (name :: names) p

variable {graph : Graph}

/-- There is at most one path from a token. -/
theorem AliasPath.unique {token : TypeToken} {names names' : List String} {p p' : Primitive}
    (h : AliasPath graph token names p) (h' : AliasPath graph token names' p') :
    names = names' ∧ p = p' := by
  induction h generalizing names' with
  | scalar p =>
    cases h'
    exact ⟨rfl, rfl⟩
  | viaAlias hmodel ha _ ih =>
    cases h' with
    | viaAlias hmodel' ha' h' =>
      have hm := Option.some.inj (hmodel.symm.trans hmodel')
      subst hm
      have ht := Option.some.inj (ha.symm.trans ha')
      subst ht
      obtain ⟨hnames, hp⟩ := ih h'
      exact ⟨by rw [hnames], hp⟩

/-- From each name on a path a path goes on, and it is no longer. -/
theorem AliasPath.from_mem {token : TypeToken} {names : List String} {p : Primitive} {name : String}
    (h : AliasPath graph token names p) (hname : name ∈ names) :
    ∃ rest, rest.length ≤ names.length ∧ AliasPath graph (.named name) rest p := by
  induction h with
  | scalar p => cases hname
  | @viaAlias first _ _ names _ hmodel ha h ih =>
    rcases List.mem_cons.1 hname with rfl | hname
    · exact ⟨name :: names, Nat.le_refl _, .viaAlias hmodel ha h⟩
    · obtain ⟨rest, hlen, hrest⟩ := ih hname
      exact ⟨rest, by rw [List.length_cons]; omega, hrest⟩

/-- **No name stands twice on a path.** -/
theorem AliasPath.nodup {token : TypeToken} {names : List String} {p : Primitive}
    (h : AliasPath graph token names p) : names.Nodup := by
  induction h with
  | scalar p => exact List.nodup_nil
  | @viaAlias name _ _ names _ hmodel ha h ih =>
    refine List.nodup_cons.2 ⟨fun hmem => ?_, ih⟩
    -- a second occurrence would start a path that is shorter than the only one there is
    obtain ⟨rest, hlen, hrest⟩ := h.from_mem hmem
    have hsame := (hrest.unique (.viaAlias hmodel ha h)).1
    rw [hsame, List.length_cons] at hlen
    omega

/-- The names on a path are names of the graph. -/
theorem AliasPath.subset_names {token : TypeToken} {names : List String} {p : Primitive}
    (h : AliasPath graph token names p) : names ⊆ graph.names := by
  induction h with
  | scalar p => exact List.nil_subset _
  | viaAlias hmodel _ _ ih => exact List.cons_subset.2 ⟨mem_names.2 ⟨_, hmodel⟩, ih⟩

/-- A path is no longer than the graph is large, since no name stands on it twice. -/
theorem AliasPath.length_le_size {token : TypeToken} {names : List String} {p : Primitive}
    (h : AliasPath graph token names p) : names.length ≤ graph.size := by
  have hle : names.length ≤ graph.names.length := h.nodup.length_le_of_subset h.subset_names
  rwa [Graph.names, Table.keys, List.length_map] at hle

/-! ## The bounded look -/

/-- What a number of looks reaches: the scalars at the end of shorter paths. -/
theorem scalarWithin_eq_some_iff {steps : Nat} {token : TypeToken} {p : Primitive} :
    graph.scalarWithin steps token = some p ↔
      ∃ names, names.length < steps ∧ AliasPath graph token names p := by
  induction steps generalizing token with
  | zero => simp [scalarWithin]
  | succ steps ih =>
    constructor
    · intro h
      cases token with
      | primitive q =>
        cases h
        exact ⟨[], Nat.succ_pos _, .scalar p⟩
      | named name =>
        cases hmodel : graph.get? name with
        | none => simp [scalarWithin, hmodel] at h
        | some model =>
          simp only [scalarWithin, hmodel] at h
          -- one look is spent on this name, and its path is one longer than that of the token
          -- behind it
          obtain ⟨token, ha, h⟩ := Option.bind_eq_some_iff.1 h
          obtain ⟨names, hlen, hpath⟩ := ih.1 h
          exact ⟨name :: names, Nat.succ_lt_succ hlen, .viaAlias hmodel ha hpath⟩
      | array item => cases h
      | map value => cases h
      | any => cases h
    · rintro ⟨names, hlen, hpath⟩
      cases hpath with
      | scalar => rfl
      | viaAlias hmodel ha hpath =>
        simp only [scalarWithin, hmodel, ha, Option.bind_some]
        exact ih.2 ⟨_, Nat.lt_of_succ_lt_succ hlen, hpath⟩

/-- **Aliases are followed exactly:** a token stands for a scalar if a path leads there, of
whatever length. -/
theorem scalarOf?_eq_some_iff {token : TypeToken} {p : Primitive} :
    graph.scalarOf? token = some p ↔ ∃ names, AliasPath graph token names p := by
  rw [scalarOf?, scalarWithin_eq_some_iff]
  constructor
  · rintro ⟨names, -, h⟩
    exact ⟨names, h⟩
  · rintro ⟨names, h⟩
    exact ⟨names, Nat.lt_succ_of_le h.length_le_size, h⟩

end Graph

end ClientForge
