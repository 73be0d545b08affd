/-
  When the constants of enumerations differ.

  Each enumeration of the document has constants, one for each of its literals, named after the
  enumeration and the literal.  The module of the models puts the constants of all enumerations side
  by side, and with them the constructors of the text types, so their names have to differ across the
  whole module.  Names are kept apart within one enumeration only: a name that was given there before
  gets a number, and the next enumeration starts anew.

  1. **Within one model** the names differ (`nodup_valueNames`).  The constructor of a text type has the
     name of the model, and every constant is longer (`constantName_spec`).
  2. **Between two models** they can meet only where one name goes on as the other does: a constant
     begins with the name of its enumeration, its first letter raised, and so does a numbered one.  If
     the names of two enumerations are such that neither begins the other, nothing can meet
     (`Model.MayClash`, `mayClash_of_mem`).
  3. **Exactly when** (`valueNames_nodup_iff`): the names of the module differ if and only if, for any
     two enumerations that may clash, those of the one are not among those of the other.

  The third statement leaves the names of such a pair to be compared, because there is nothing shorter
  to say: `Plan` with `free_v2` and `PlanFree` with `v2` split one text at different places, and
  whether that happens depends on the literals.
-/
import Mathlib.Data.List.Nodup
import Mathlib.Data.List.Pairwise
import ClientForge.Proofs.Graph.Lookup
import ClientForge.Proofs.Naming.Legal
import ClientForge.Sdk.Models

namespace ClientForge

open ClientForge.Naming

/-- The name that an item gives to a value: a constant does, and so does a type of texts to its
constructor. -/
def Code.Item.valueName? : Code.Item → Option String
  | .typeAlias .. => none
  | .struct .. => none
  | .textType name _ => some name
  | .constant name .. => some name

/-- The names that the items of a module give to values. -/
def Code.Module.valueNames (m : Code.Module) : List String :=
  m.decls.filterMap fun
    | .item i => i.valueName?
    | _ => none

/-- Both are enumerations, and the constants of the one begin as a name of the other may. -/
def Model.MayClash (first second : Model) : Prop :=
  first.shape = .enumAlias ∧ second.shape = .enumAlias ∧
    ((capitalized first.name).toList <+: second.name.toList ∨
      (capitalized first.name).toList <+: (capitalized second.name).toList)

/-- Whether two models may clash can be computed. -/
instance (first second : Model) : Decidable (first.MayClash second) :=
  inferInstanceAs (Decidable (_ ∧ _ ∧ (_ ∨ _)))

/-! ## The name of a constant -/

namespace Naming

/-- Raising the first letter leaves nothing out. -/
theorem length_le_capitalize (cs : List Char) : cs.length ≤ (Text.capitalize cs).length := by
  cases cs with
  | nil => exact Nat.le_refl _
  | cons c cs =>
    obtain ⟨d, ds, hupper, -⟩ := upperChar_eq_cons c
    rw [Text.capitalize, hupper, List.length_append, List.length_cons, List.length_cons]
    omega

/-- A constant is named after its enumeration, and its name is longer. -/
theorem constantName_spec (owner literal : String) :
    (capitalized owner).toList <+: (constantName owner literal).toList ∧
      owner.toList.length < (constantName owner literal).toList.length := by
  have hending : (if (exportedAscii literal).isEmpty then "Empty"
      else exportedAscii literal).toList ≠ [] := by
    split
    · exact nofun
    · rename_i hsome
      intro hnil
      exact hsome (String.isEmpty_iff.2 (String.toList_eq_nil_iff.1 hnil))
  have hlength := length_le_capitalize owner.toList
  have hpositive := List.length_pos_of_ne_nil hending
  unfold constantName
  dsimp only
  rw [String.toList_append]
  refine ⟨List.prefix_append .., ?_⟩
  rw [List.length_append, capitalized, String.toList_ofList]
  omega

end Naming

namespace Sdk

open ClientForge.Code

/-- The names that the items of a model give to values. -/
def valueNames (graph : Graph) (model : Model) : List String :=
  (modelItems graph model).filterMap Item.valueName?

/-- The values of the module are those of its models, one model behind the other. -/
theorem valueNames_modelsModule (graph : Graph) :
    (modelsModule graph).valueNames = graph.toList.flatMap (valueNames graph) := by
  simp only [Module.valueNames, modelsModule, List.filterMap_map, List.filterMap_flatMap]
  rfl

/-- The constants have the names that were given out for them, one for each value. -/
theorem map_name_constants (name : String) (values : List (String × Expr)) :
    (constants name values).map Item.name =
      Names.empty.claimIdents (values.map fun value => constantName name value.1) := by
  have hlength : (Names.empty.claimIdents (values.map fun value =>
      constantName name value.1)).length = values.length := by
    rw [Names.length_claimIdents, List.length_map]
  rw [constants, List.map_map]
  exact List.map_fst_zip (Nat.le_of_eq hlength)

/-- The values among constants have the names that were given out for them. -/
theorem valueNames_constants (name : String) (values : List (String × Expr)) :
    (constants name values).filterMap Item.valueName? =
      Names.empty.claimIdents (values.map fun value => constantName name value.1) := by
  rw [← map_name_constants, constants, List.filterMap_map, List.map_map]
  show List.filterMap (some ∘ Prod.fst) _ = List.map Prod.fst _
  rw [List.filterMap_eq_map]

/-- **The names of an enumeration:** the constructor of a type of texts, and the constants, which
are named after the enumeration, one by one. -/
theorem valueNames_eq (graph : Graph) (model : Model) :
    (model.shape ≠ .enumAlias ∧ valueNames graph model = []) ∨
    (model.shape = .enumAlias ∧ ∃ wishes : List String,
      valueNames graph model = (if model.isStringEnum then [model.name] else []) ++
        Names.empty.claimIdents (wishes.map (constantName model.name))) := by
  unfold valueNames modelItems
  dsimp only
  -- Only an enumeration has constants; its own type is a value as well when it is one of texts.
  cases model.shape with
  | enumAlias =>
    refine Or.inr ⟨rfl, ?_⟩
    show ∃ wishes : List String, (enumItems graph model).filterMap Item.valueName? = _
    unfold enumItems
    dsimp only
    by_cases htext : model.isStringEnum = true
    · refine ⟨model.children.toList, ?_⟩
      rw [if_pos htext, if_pos htext]
      show model.name :: (constants _ _).filterMap Item.valueName? = _
      rw [valueNames_constants, List.map_map]
      rfl
    · -- The wishes are the literals that can be read, which need not be all of them.
      rw [if_neg htext, if_neg htext]
      show ∃ wishes : List String, (constants _ _).filterMap Item.valueName? = _
      rw [valueNames_constants]
      generalize (model.children.toList.filterMap _) = values
      exact ⟨values.map Prod.fst, by rw [List.map_map, List.nil_append]; rfl⟩
  | composition =>
    refine Or.inl ⟨nofun, ?_⟩
    by_cases hnone : (embeddedMembers graph model).isEmpty = true
    · simp [hnone, Item.valueName?]
    · simp [hnone, Item.valueName?]
  | plainAlias | struct | empty => exact Or.inl ⟨nofun, rfl⟩

/-- An identifier wished for as a constant is named after the enumeration, numbered or not, and is
longer than its name. -/
theorem spec_of_mem_claimIdents {owner name : String} {wishes : List String}
    (h : name ∈ Names.empty.claimIdents (wishes.map (constantName owner))) :
    (capitalized owner).toList <+: name.toList ∧ owner.toList.length < name.toList.length := by
  obtain ⟨wish, hwish, heq⟩ := Names.claimIdents_eq h
  obtain ⟨literal, -, rfl⟩ := List.mem_map.1 hwish
  obtain ⟨hbegins, hlonger⟩ := constantName_spec owner literal
  rcases heq with rfl | ⟨n, rfl⟩
  · exact ⟨hbegins, hlonger⟩
  · rw [String.toList_append, String.toList_append, List.append_assoc]
    refine ⟨hbegins.trans (List.prefix_append ..), ?_⟩
    rw [List.length_append]
    omega

/-- A name of a model's values is the model's own, or begins with it. -/
theorem begins_of_mem_valueNames {graph : Graph} {model : Model} {name : String}
    (h : name ∈ valueNames graph model) :
    model.shape = .enumAlias ∧
      (name = model.name ∨ (capitalized model.name).toList <+: name.toList) := by
  rcases valueNames_eq graph model with ⟨-, hnone⟩ | ⟨hshape, wishes, hnames⟩
  · rw [hnone] at h
    cases h
  · refine ⟨hshape, ?_⟩
    rw [hnames] at h
    rcases List.mem_append.1 h with h | h
    · split at h
      · exact Or.inl (List.mem_singleton.1 h)
      · cases h
    · exact Or.inr (spec_of_mem_claimIdents h).1

/-- **Within one model** the names differ. -/
theorem nodup_valueNames (graph : Graph) (model : Model) : (valueNames graph model).Nodup := by
  rcases valueNames_eq graph model with ⟨-, hnone⟩ | ⟨-, wishes, hnames⟩
  · rw [hnone]
    exact List.nodup_nil
  · rw [hnames]
    have hidents := Names.claimIdents_nodup .empty (wishes.map (constantName model.name))
    split
    · refine List.nodup_cons.2 ⟨fun hmem => ?_, hidents⟩
      exact Nat.lt_irrefl _ (spec_of_mem_claimIdents hmem).2
    · exact hidents

/-! ## Different models -/

/-- **Models whose names meet** may clash, one way or the other. -/
theorem mayClash_of_mem {graph : Graph} {first second : Model} {name : String}
    (hnames : first.name ≠ second.name) (hfirst : name ∈ valueNames graph first)
    (hsecond : name ∈ valueNames graph second) :
    first.MayClash second ∨ second.MayClash first := by
  obtain ⟨hshape, hbegins⟩ := begins_of_mem_valueNames hfirst
  obtain ⟨hshape', hbegins'⟩ := begins_of_mem_valueNames hsecond
  rcases hbegins with rfl | hbegins
  · rcases hbegins' with heq | hbegins'
    · exact absurd heq hnames
    · exact Or.inr ⟨hshape', hshape, Or.inl hbegins'⟩
  · rcases hbegins' with rfl | hbegins'
    · exact Or.inl ⟨hshape, hshape', Or.inl hbegins⟩
    · rcases List.prefix_or_prefix_of_prefix hbegins hbegins' with hprefix | hprefix
      · exact Or.inl ⟨hshape, hshape', Or.inr hprefix⟩
      · exact Or.inr ⟨hshape', hshape, Or.inr hprefix⟩

/-- **When the values of the models' module differ:** any two enumerations of which the one's
constants begin as a name of the other may have no name in common. -/
theorem valueNames_nodup_iff (graph : Graph) :
    (modelsModule graph).valueNames.Nodup ↔
      ∀ first ∈ graph.toList, ∀ second ∈ graph.toList, first.name ≠ second.name →
        first.MayClash second →
          (valueNames graph first).Disjoint (valueNames graph second) := by
  -- the models stand in the order of their names, so no two have the same
  have hmodels : graph.toList.Pairwise fun first second => first.name ≠ second.name := by
    have hnames := graph.names_pairwise
    rw [← Graph.map_name_toList, List.pairwise_map] at hnames
    refine hnames.imp fun {first second} hlt heq => ?_
    rw [heq] at hlt
    exact String.lt_irrefl _ hlt
  rw [valueNames_modelsModule, List.nodup_flatMap]
  constructor
  · rintro ⟨-, hapart⟩ first hfirst second hsecond hname -
    have : Std.Symm (Function.onFun List.Disjoint (valueNames graph)) :=
      ⟨fun _ _ hdisjoint _ hin hin' => hdisjoint hin' hin⟩
    exact hapart.forall hfirst hsecond fun heq => hname (heq ▸ rfl)
  · intro hapart
    refine ⟨fun model _ => nodup_valueNames graph model, ?_⟩
    refine hmodels.imp_of_mem fun {first second} hfirst hsecond hname name hin hin' => ?_
    rcases mayClash_of_mem hname hin hin' with hmay | hmay
    · exact hapart first hfirst second hsecond hname hmay hin hin'
    · exact hapart second hsecond first hfirst hname.symm hmay hin' hin

/-- Two enumerations that split one text at different places: both have a constant `PlanFreeV2`. -/
def planGraph : Graph := .ofList [
  { name := "Plan", aliasOf := some (.primitive .string), isEnum := true,
    children := .ofList ["free_v2"] },
  { name := "PlanFree", aliasOf := some (.primitive .string), isEnum := true,
    children := .ofList ["v2"] }]

example : (modelsModule planGraph).valueNames =
    ["Plan", "PlanFreeV2", "PlanFree", "PlanFreeV2"] := by
  decide +kernel

end Sdk

end ClientForge
