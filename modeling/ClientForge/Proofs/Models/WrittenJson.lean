/-
  What values of the emitted types are written as.

  The generated types are serialised by a library that goes by their declarations, so the items of the
  models say together what a value can be written as.  The rules are the library's documented ones
  (`Code.Writes`):

  * another name for a type is written as that type, and a type of texts as a text;
  * a record is written as an object of its members, where a flattened member gives its own entries and
    not one of its own name, and a member that is missing is left out if it is marked so;
  * lists, maps, options and boxes as what they hold.

  They are rules and not a function, since most types can be written in many ways; and they are mutual,
  because the members of a record are gone through one by one.  Types that no item defines come from
  other libraries.  What they are written as is a parameter here, but for the type of any value.

  Every model gives exactly one item that defines a type, and no two models have one name, so what a
  model is written as is told by its own item (`writes_path_iff`).  From this follows what embedding
  relies on: a model that can be embedded is always written as an object
  (`exists_entries_of_objectWithin`).  The last section is on a composition of one part, which is
  written as the part is if that can be embedded, and as anything if not.
-/
import ClientForge.Proofs.Models.Items
import ClientForge.Proofs.Models.WireNames

namespace ClientForge

open ClientForge.Code ClientForge.Sdk

/-! ## The rules -/

namespace Code

/-- Whether the item defines a type. -/
def Item.definesType : Item → Bool
  | constant .. => false
  | _ => true

/-- Whether the entries of the member stand in the record around it. -/
def Member.isFlat (member : Member) : Bool := member.serde.contains "flatten"

/-- Whether the member is left out where it is missing. -/
def Member.isOptional (member : Member) : Bool := member.serde.contains optionalMark

/-- The type of the member where it is written. -/
def Member.written (member : Member) : Ty :=
  match member.type with
  | .option inner => if member.isOptional then inner else member.type
  | type => type

mutual

/-- `Writes foreign items type json` — a value of the type can be written as the JSON value. -/
inductive Writes (foreign : String → Json → Prop) (items : List Item) : Ty → Json → Prop
  | any (json : Json) : Writes foreign items .anyValue json
  | foreign {name : String} {json : Json}
      (hnone : ∀ item ∈ items, item.definesType = true → item.name ≠ name)
      (h : foreign name json) : Writes foreign items (.path name) json
  | typeAlias {name : String} {type : Ty} {doc : Option String} {json : Json}
      (hitem : .typeAlias name type doc ∈ items) (h : Writes foreign items type json) :
      Writes foreign items (.path name) json
  | textType {name : String} {doc : Option String} (hitem : .textType name doc ∈ items)
      (text : String) : Writes foreign items (.path name) (.text text)
  | struct {name : String} {doc : Option String} {members : List Member}
      {entries : List (String × Json)} (hitem : .struct name doc members ∈ items)
      (h : WritesMembers foreign items members entries) :
      Writes foreign items (.path name) (.object entries)
  | vec {item : Ty} {values : List Json} (h : ∀ json ∈ values, Writes foreign items item json) :
      Writes foreign items (.vec item) (.array values)
  | map {value : Ty} {entries : List (String × Json)}
      (h : ∀ entry ∈ entries, Writes foreign items value entry.2) :
      Writes foreign items (.map value) (.object entries)
  | none {inner : Ty} : Writes foreign items (.option inner) .null
  | some {inner : Ty} {json : Json} (h : Writes foreign items inner json) :
      Writes foreign items (.option inner) json
  | box {inner : Ty} {json : Json} (h : Writes foreign items inner json) :
      Writes foreign items (.box inner) json

/-- `WritesMembers foreign items members entries` — the members of a record can be written as these
entries, one after the other. -/
inductive WritesMembers (foreign : String → Json → Prop) (items : List Item) :
    List Member → List (String × Json) → Prop
  | nil : WritesMembers foreign items [] []
  | missing {member : Member} {rest : List Member} {entries : List (String × Json)}
      (hoptional : member.isOptional = true)
      (others : WritesMembers foreign items rest entries) :
      WritesMembers foreign items (member :: rest) entries
  | flat {member : Member} {rest : List Member} {own entries : List (String × Json)}
      (hflat : member.isFlat = true) (h : Writes foreign items member.written (.object own))
      (others : WritesMembers foreign items rest entries) :
      WritesMembers foreign items (member :: rest) (own ++ entries)
  | named {member : Member} {rest : List Member} {entries : List (String × Json)} {key : String}
      {json : Json} (hflat : member.isFlat = false) (hkey : member.wireName? = some key)
      (h : Writes foreign items member.written json)
      (others : WritesMembers foreign items rest entries) :
      WritesMembers foreign items (member :: rest) ((key, json) :: entries)

end

/-- What a type can be written as, by the item that defines it. -/
def Item.Writes (foreign : String → Json → Prop) (items : List Item) (json : Json) : Item → Prop
  | typeAlias _ type _ => Code.Writes foreign items type json
  | textType .. => ∃ text, json = .text text
  | struct _ _ members => ∃ entries, json = .object entries ∧
      WritesMembers foreign items members entries
  | constant .. => False

end Code

namespace Sdk

/-- The items of all models. -/
def itemsOf (graph : Graph) : List Item := graph.toList.flatMap (modelItems graph)

/-- `graph.Writes foreign type json` — in the module of the models, a value of the type can be
written as the JSON value. -/
abbrev Writes (foreign : String → Json → Prop) (graph : Graph) (type : Ty) (json : Json) : Prop :=
  Code.Writes foreign (itemsOf graph) type json

/-! ## Models -/

section Models

variable {foreign : String → Json → Prop} {graph : Graph} {name : String} {model : Model}
  {json : Json}

/-- A model gives one item that defines a type, and then constants. -/
theorem modelItems_eq_cons (graph : Graph) (model : Model) :
    ∃ item constants, modelItems graph model = item :: constants ∧ item.definesType = true ∧
      item.name = model.name ∧ ∀ other ∈ constants, other.definesType = false := by
  have hconstants {values : List (String × Expr)} :
      ∀ other ∈ constants model.name values, other.definesType = false := by
    intro other hmem
    obtain ⟨ident, type, value, rfl⟩ := mem_constants hmem
    rfl
  unfold modelItems
  dsimp only
  split
  · unfold enumItems
    dsimp only
    split
    · exact ⟨_, _, rfl, rfl, rfl, hconstants⟩
    · exact ⟨_, _, rfl, rfl, rfl, hconstants⟩
  · exact ⟨_, [], rfl, rfl, rfl, nofun⟩
  · exact ⟨_, [], rfl, rfl, rfl, nofun⟩
  · split
    · exact ⟨_, [], rfl, rfl, rfl, nofun⟩
    · exact ⟨_, [], rfl, rfl, rfl, nofun⟩
  · exact ⟨_, [], rfl, rfl, rfl, nofun⟩

/-- No other model defines the type of that name. -/
theorem eq_of_mem_itemsOf (hget : graph.get? name = some model) {item other : Item}
    {constants : List Item} (hitems : modelItems graph model = item :: constants)
    (hmem : other ∈ itemsOf graph) (htype : other.definesType = true) (hname : other.name = name) :
    other = item := by
  obtain ⟨owner, howner, hother⟩ := List.mem_flatMap.1 hmem
  obtain ⟨first, rest, hfirst, -, hfirstName, hrest⟩ := modelItems_eq_cons graph owner
  rw [hfirst] at hother
  rcases List.mem_cons.1 hother with rfl | hother
  · have hown := Graph.mem_toList.1 howner
    rw [← hfirstName, hname, hget] at hown
    cases hown
    cases hfirst.symm.trans hitems
    rfl
  · cases htype.symm.trans (hrest other hother)

/-- **What a model is written as** is told by the item that defines its type. -/
theorem writes_path_iff (hget : graph.get? name = some model) (hany : .path name ≠ Ty.anyValue)
    {item : Item} {constants : List Item} (hitems : modelItems graph model = item :: constants) :
    Writes foreign graph (.path name) json ↔ item.Writes foreign (itemsOf graph) json := by
  obtain ⟨first, rest, hfirst, htype, hname, -⟩ := modelItems_eq_cons graph model
  cases hfirst.symm.trans hitems
  -- Only the first item of a model is a type, and it has the model's name.
  have hnamed : item.name = name := hname.trans (Graph.name_of_get? hget)
  have hmem : item ∈ itemsOf graph := by
    refine List.mem_flatMap.2 ⟨model, ?_, hitems ▸ List.mem_cons_self⟩
    rw [Graph.mem_toList, Graph.name_of_get? hget, hget]
  constructor
  · -- A type of this name that is found elsewhere in the file is that same item.
    intro h
    cases h with
    | any => exact absurd rfl hany
    | foreign hnone => exact absurd hnamed (hnone item hmem htype)
    | typeAlias hitem h =>
      obtain rfl := eq_of_mem_itemsOf hget hitems hitem rfl rfl
      exact h
    | textType hitem text =>
      obtain rfl := eq_of_mem_itemsOf hget hitems hitem rfl rfl
      exact ⟨text, rfl⟩
    | struct hitem h =>
      obtain rfl := eq_of_mem_itemsOf hget hitems hitem rfl rfl
      exact ⟨_, rfl, h⟩
  · intro h
    -- Back, by the kind of item; a constant is no type.
    cases item with
    | typeAlias other type doc =>
      obtain rfl : other = name := hnamed
      exact .typeAlias hmem h
    | textType other doc =>
      obtain rfl : other = name := hnamed
      obtain ⟨text, rfl⟩ := h
      exact .textType hmem text
    | struct other doc members =>
      obtain rfl : other = name := hnamed
      obtain ⟨entries, rfl, h⟩ := h
      exact .struct hmem h
    | constant => cases htype

/-! ## Objects -/

/-- What is found to be an object has a model. -/
theorem ObjectWithin.contains {steps : Nat} (h : ObjectWithin graph steps name) :
    graph.contains name = true := by
  have hmodel : ∃ model, graph.get? name = some model := by
    cases h <;> exact ⟨_, ‹_›⟩
  exact Graph.contains_iff.2 hmodel

/-- A plain alias is another name for the type of its token. -/
theorem modelItems_of_plainAlias (graph : Graph) {token : TypeToken} (hs : model.shape = .plainAlias)
    (ha : model.aliasOf = some token) :
    modelItems graph model = [.typeAlias model.name (typeOf graph token) model.description] := by
  rw [modelItems, hs, ha]

/-- A composition has a member for each part it embeds. -/
theorem length_embeddedMembers (graph : Graph) (model : Model) :
    (embeddedMembers graph model).length = (embedded graph model).length := by
  rw [embeddedMembers, List.length_map, List.length_zip, Names.length_claimIdents,
    List.length_map, Nat.min_self]

/-- A composition that embeds a child is a record, and any other one is any value. -/
theorem modelItems_of_composition (graph : Graph) (hs : model.shape = .composition) :
    modelItems graph model =
      if embedded graph model = [] then [.typeAlias model.name .anyValue model.description]
      else [.struct model.name model.description (embeddedMembers graph model)] := by
  have hempty : (embeddedMembers graph model).isEmpty = true ↔ embedded graph model = [] := by
    rw [List.isEmpty_iff_length_eq_zero, length_embeddedMembers, List.length_eq_zero_iff]
  rw [modelItems, hs]
  dsimp only
  simp only [hempty]

/-- **What can be embedded is written as an object.** -/
theorem exists_entries_of_objectWithin {steps : Nat}
    (hnames : ∀ {name model}, graph.get? name = some model → .path name ≠ Ty.anyValue)
    (h : ObjectWithin graph steps name) (hsteps : steps ≤ embeddingDepth)
    (hwrites : Writes foreign graph (.path name) json) : ∃ entries, json = .object entries := by
  -- One case for each shape within the depth; what is written is always an object.
  induction h with
  | @struct _ _ model hmodel hs =>
    have hitems : modelItems graph model =
        [.struct model.name model.description (fieldMembers graph model)] := by
      rw [modelItems, hs]
    obtain ⟨entries, rfl, -⟩ := (writes_path_iff hmodel (hnames hmodel) hitems).1 hwrites
    exact ⟨entries, rfl⟩
  | @empty _ _ model hmodel hs =>
    have hitems : modelItems graph model =
        [.typeAlias model.name (.map .anyValue) model.description] := by
      rw [modelItems, hs]
    cases (writes_path_iff hmodel (hnames hmodel) hitems).1 hwrites with
    | map => exact ⟨_, rfl⟩
  | @map _ _ model _ hmodel hs ha =>
    have hitems := modelItems_of_plainAlias graph hs ha
    cases (writes_path_iff hmodel (hnames hmodel) hitems).1 hwrites with
    | map => exact ⟨_, rfl⟩
  | @viaAlias _ _ target model hmodel hs ha hobject ih =>
    have hitems := modelItems_of_plainAlias graph hs ha
    have hwritten := (writes_path_iff hmodel (hnames hmodel) hitems).1 hwrites
    refine ih (by omega) ?_
    rwa [Item.Writes, typeOf, if_pos hobject.contains] at hwritten
  -- The child lies one step deeper, so it is embedded, and the struct of the members is an object.
  | @child _ _ child model hmodel hs hc hobject ih =>
    have hembedded : embedded graph model ≠ [] := by
      refine List.ne_nil_of_mem (mem_embedded.2 ⟨hc, ?_⟩)
      exact embedsWithin_iff.2 (hobject.mono (by omega))
    have hitems := modelItems_of_composition graph hs
    rw [if_neg hembedded] at hitems
    obtain ⟨entries, rfl, -⟩ := (writes_path_iff hmodel (hnames hmodel) hitems).1 hwrites
    exact ⟨entries, rfl⟩

/-! ## A composition of one -/

variable {child : String}

/-- A record with one flattened member is written as what the member is, which is an object. -/
theorem writesMembers_flat_iff {items : List Item} {member : Member}
    {entries : List (String × Json)} (hflat : member.isFlat = true)
    (hoptional : member.isOptional = false) :
    WritesMembers foreign items [member] entries ↔
      Code.Writes foreign items member.written (.object entries) := by
  constructor
  · intro h
    cases h with
    | missing hmissing => cases hoptional.symm.trans hmissing
    | flat _ h others =>
      cases others
      rwa [List.append_nil]
    | named hnamed => cases hflat.symm.trans hnamed
  · intro h
    have hmembers := WritesMembers.flat hflat h .nil
    rwa [List.append_nil] at hmembers

/-- A boxed value is written as what is in the box. -/
theorem writes_box_iff {items : List Item} {type : Ty} :
    Code.Writes foreign items (.box type) json ↔ Code.Writes foreign items type json := by
  constructor
  · intro h
    cases h
    assumption
  · exact .box

/-- A composition of one child that can be embedded has one member, which is flattened. -/
theorem embeddedMembers_of_single (hunion : model.union = false)
    (hembedded : embedded graph model = [child]) :
    ∃ ident, embeddedMembers graph model = [{
      name := ident
      type := if holds graph child model.name then .box (.path child) else .path child
      serde := ["flatten"] }] := by
  have hlength : (Names.empty.claimIdents
      ([child].map (Naming.fieldIdentOr "inner"))).length = 1 := by
    rw [Names.length_claimIdents]
    rfl
  obtain ⟨ident, hident⟩ := List.length_eq_one_iff.1 hlength
  refine ⟨ident, ?_⟩
  rw [embeddedMembers, hembedded, hident, hunion]
  rfl

/-- **A composition of one child** that can be embedded is written as the child is. -/
theorem writes_iff_of_embeds
    (hnames : ∀ {name model}, graph.get? name = some model → .path name ≠ Ty.anyValue)
    (hget : graph.get? name = some model) (hs : model.shape = .composition)
    (hunion : model.union = false) (hchildren : model.children.toList = [child])
    (hembeds : embeds graph child = true) :
    Writes foreign graph (.path name) json ↔ Writes foreign graph (.path child) json := by
  -- One child that is embedded gives one member, flattened.
  have hembedded : embedded graph model = [child] := by
    rw [embedded, hchildren, List.filter_cons_of_pos hembeds, List.filter_nil]
  have hitems := modelItems_of_composition graph hs
  rw [if_neg (by rw [hembedded]; exact List.cons_ne_nil _ _)] at hitems
  obtain ⟨ident, hmembers⟩ := embeddedMembers_of_single hunion hembedded
  let member : Member := {
    name := ident
    type := if holds graph child model.name then .box (.path child) else .path child
    serde := ["flatten"] }
  -- Flattened and not optional: what the member writes is spread into the object.
  have hoptional : member.isOptional = false := by
    show ["flatten"].contains optionalMark = false
    decide
  have hwritten (json : Json) : Writes foreign graph member.written json ↔
      Writes foreign graph (.path child) json := by
    have htype : member.written =
        if holds graph child model.name then .box (.path child) else .path child := by
      show Member.written { name := ident, type := _, serde := _ } = _
      unfold Member.written
      cases holds graph child model.name <;> rfl
    rw [htype]
    cases holds graph child model.name with
    | true => exact writes_box_iff
    | false => exact Iff.rfl
  -- The struct writes what the child writes, provided that it is an object; that it is one follows
  -- from the embedding.
  have hown : Writes foreign graph (.path name) json ↔
      ∃ entries, json = .object entries ∧ Writes foreign graph (.path child) (.object entries) := by
    rw [writes_path_iff hget (hnames hget) hitems, hmembers]
    refine exists_congr fun entries => and_congr_right fun _ => ?_
    exact (writesMembers_flat_iff rfl hoptional).trans (hwritten _)
  rw [hown]
  constructor
  · rintro ⟨entries, rfl, h⟩
    exact h
  · intro h
    obtain ⟨entries, rfl⟩ := exists_entries_of_objectWithin hnames (embedsWithin_iff.1 hembeds)
      (Nat.le_refl _) h
    exact ⟨entries, rfl, h⟩

/-- One whose child cannot be embedded can be written as anything. -/
theorem writes_of_not_embeds (hget : graph.get? name = some model)
    (hany : .path name ≠ Ty.anyValue) (hs : model.shape = .composition)
    (hchildren : model.children.toList = [child]) (hembeds : embeds graph child = false)
    (json : Json) : Writes foreign graph (.path name) json := by
  have hembedded : embedded graph model = [] := by
    rw [embedded, hchildren, List.filter_cons_of_neg (by simp [hembeds]), List.filter_nil]
  have hitems := modelItems_of_composition graph hs
  rw [if_pos hembedded] at hitems
  exact (writes_path_iff hget hany hitems).2 (.any json)

end Models

end Sdk

end ClientForge
