/-
  The names of a record's members on the wire.

  A field of the document has a key, which may be any text, and a member of the generated record has an
  identifier, which may not.  A member whose identifier is not its key says the key in a `rename` of its
  attribute, and every other one is called by its identifier.  What the record is called on the wire
  should be its keys.

  What a `rename` says is what its text literal is read as (`Member.wireName?`).  Two cases:

  1. The identifier without its raw mark is the key.  Then there is no `rename`, and since the mark is
     no part of a name, the member is called by the key.
  2. It is not.  Then the key is written into the attribute with its quotes escaped and nothing else.
     Reading that literal gives the key back unless the key holds a backslash, which begins an escape,
     or a carriage return, which a literal may not hold.

  Identifiers hold neither, so the condition can be put on all keys alike
  (`Sdk.wireNames_fieldMembers_iff`): the wire names are the keys exactly if no key has a backslash or
  a carriage return.  It is an equivalence for whole records, so one such key is enough to spoil a
  model, and nothing else can.
-/
import ClientForge.Proofs.Code.TextLiteral
import ClientForge.Proofs.Models.Boxing
import ClientForge.Proofs.Naming.FieldNames
import ClientForge.Proofs.Request.Evaluation

namespace ClientForge

open ClientForge.Code ClientForge.Sdk

/-! ## What an attribute says -/

/-- The literal of an argument of the attribute that renames the member. -/
def renamed? (mark : String) : Option String := between? "rename = " "" mark

/-- The name of a member on the wire, if it has one: that of the literal in its `rename`, else its
identifier without the raw mark. -/
def Code.Member.wireName? (member : Member) : Option String :=
  match member.serde.findSome? renamed? with
  | some literal => readLiteral? literal
  | none => some (Naming.withoutRawMark member.name)

/-- The mark of an optional member renames nothing. -/
theorem renamed?_optionalMark : renamed? optionalMark = none := by decide +kernel

/-- A `rename` holds the key with its quotes escaped. -/
theorem renamed?_renameMark (key : String) :
    renamed? (renameMark key) = some (String.ofList (quotesEscaped key)) := by
  have hmark : renameMark key = "rename = " ++ String.ofList (quotesEscaped key) ++ "" := by
    apply String.toList_injective
    simp [renameMark, quotesEscaped, replaceAll_quote]
  rw [renamed?, hmark, between?_append]

/-! ## Identifiers -/

/-- The identifiers of fields have the shape of identifiers. -/
theorem identShaped_fieldIdents {model : Model} {ident : String} (h : ident ∈ fieldIdents model) :
    Naming.IdentShaped ident := by
  have hfield : Naming.IdentShaped "field_" := by decide
  refine Naming.identShaped_claimIdents (fun wish hwish => ?_) h
  obtain ⟨i, _, rfl⟩ := List.mem_mapIdx.1 hwish
  unfold Naming.fieldIdentOr
  split
  · rename_i ident hident
    exact Naming.identShaped_fieldIdent hident
  · exact hfield.append (Naming.identShaped_decimalText i)

/-- Without its raw mark an identifier has no other characters. -/
theorem identShaped_withoutRawMark {ident : String} (h : Naming.IdentShaped ident) :
    Naming.IdentShaped (Naming.withoutRawMark ident) := by
  have hstrip (cs : List Char) : (Naming.withoutRawMark.strip cs).Sublist cs := by
    fun_induction Naming.withoutRawMark.strip cs with
    | case1 rest ih => exact (ih.cons '#').cons 'r'
    | case2 cs => exact .refl cs
  intro c hc
  rw [Naming.withoutRawMark, String.toList_ofList] at hc
  exact h c ((hstrip _).mem hc)

/-- An identifier has nothing special in it. -/
theorem not_special_of_identShaped {ident : String} (h : Naming.IdentShaped ident) :
    '\\' ∉ ident.toList ∧ '\r' ∉ ident.toList := by
  have hslash : Naming.isIdentChar '\\' = false := by decide
  have hreturn : Naming.isIdentChar '\r' = false := by decide
  constructor
  · intro hmem
    rw [h _ hmem] at hslash
    cases hslash
  · intro hmem
    rw [h _ hmem] at hreturn
    cases hreturn

/-! ## Members -/

/-- The member for a field. -/
def memberOf (graph : Graph) (owner ident : String) (field : Field) : Member :=
  let type := fieldType graph owner field
  let rename := if Naming.withoutRawMark ident == field.key then [] else [renameMark field.key]
  let optional := if type.isOption then [optionalMark] else []
  { name := ident, type, doc := field.description, serde := rename ++ optional }

/-- The members of a record are those for its fields, each with its identifier. -/
theorem fieldMembers_eq_map (graph : Graph) (model : Model) :
    fieldMembers graph model = ((fieldIdents model).zip model.fields.values).map
      fun pair => memberOf graph model.name pair.1 pair.2 :=
  rfl

/-- **A member keeps its key** exactly if no backslash and no carriage return is in it. -/
theorem wireName?_memberOf_iff (graph : Graph) (owner : String) {ident : String} (field : Field)
    (hident : Naming.IdentShaped ident) :
    (memberOf graph owner ident field).wireName? = some field.key ↔
      '\\' ∉ field.key.toList ∧ '\r' ∉ field.key.toList := by
  have hoptional (b : Bool) : (if b = true then [optionalMark] else []).findSome? renamed? =
      none := by
    cases b with
    | true => simp [renamed?_optionalMark]
    | false => rfl
  unfold memberOf Member.wireName?
  dsimp only
  by_cases hname : Naming.withoutRawMark ident = field.key
  · -- nothing is renamed, and the key is an identifier
    have hplain := not_special_of_identShaped (identShaped_withoutRawMark hident)
    rw [if_pos (beq_iff_eq.2 hname), List.nil_append, hoptional, ← hname]
    exact iff_of_true rfl hplain
  · rw [if_neg (by simpa using hname), List.singleton_append, List.findSome?_cons,
      renamed?_renameMark]
    exact readLiteral?_quotesEscaped_iff field.key

/-- **The members of a record have the keys of its fields as their wire names,** one for each in
their order, exactly if no key has a backslash or a carriage return in it. -/
theorem Sdk.wireNames_fieldMembers_iff (graph : Graph) (model : Model)
    (hkeyed : ∀ key field, model.fields.get? key = some field → field.key = key) :
    (fieldMembers graph model).map Member.wireName? = model.fields.keys.map some ↔
      ∀ key ∈ model.fields.keys, '\\' ∉ key.toList ∧ '\r' ∉ key.toList := by
  -- Keys and fields stand in the same order, and a field knows its key.
  have hkeys : model.fields.keys = model.fields.values.map Field.key := by
    rw [Table.keys, Table.values, List.map_map]
    refine List.map_congr_left fun entry hmem => ?_
    exact (hkeyed entry.1 entry.2 (Table.get?_eq_some_iff.2 hmem)).symm
  have hvalues : ((fieldIdents model).zip model.fields.values).map Prod.snd =
      model.fields.values :=
    List.map_snd_zip (Nat.le_of_eq (length_fieldIdents model).symm)
  have hwanted : model.fields.keys.map some =
      ((fieldIdents model).zip model.fields.values).map fun pair => some pair.2.key := by
    rw [hkeys, List.map_map]
    conv_lhs => rw [← hvalues]
    rw [List.map_map]
    rfl
  -- The members are those fields with their identifiers, one for each.
  have hnames : (fieldMembers graph model).map Member.wireName? =
      ((fieldIdents model).zip model.fields.values).map
        fun pair => (memberOf graph model.name pair.1 pair.2).wireName? := by
    rw [fieldMembers_eq_map, List.map_map]
    rfl
  have hmember (pair : String × Field)
      (hpair : pair ∈ (fieldIdents model).zip model.fields.values) :=
    wireName?_memberOf_iff graph model.name pair.2
      (identShaped_fieldIdents (List.of_mem_zip hpair).1)
  -- Both rows run over the same pairs, so they agree when they agree pair by pair.
  rw [hnames, hwanted, List.map_inj_left, hkeys]
  constructor
  · intro h key hkey
    obtain ⟨field, hfield, rfl⟩ := List.mem_map.1 hkey
    rw [← hvalues] at hfield
    obtain ⟨pair, hpair, rfl⟩ := List.mem_map.1 hfield
    exact (hmember pair hpair).1 (h pair hpair)
  · intro h pair hpair
    have hfield := (List.of_mem_zip hpair).2
    exact (hmember pair hpair).2 (h _ (List.mem_map_of_mem hfield))

/-- A record with a keyword, a quote and a position in place of a name among its keys. -/
def labelled : Model where
  name := "Labelled"
  fields := .ofList (["type", "say \"hi\"", "%"].map fun key => (key, { key, type := .any }))

/-- A record with a backslash in its key. -/
def slashed : Model where
  name := "Slashed"
  fields := .ofList [("a\\b", { key := "a\\b", type := .any })]

/-- The first record has the keys of its fields on the wire, the second one has not. -/
theorem Sdk.wireNames_fieldMembers_labelled :
    (fieldMembers .empty labelled).map Member.wireName? =
        [some "%", some "say \"hi\"", some "type"] ∧
      (fieldMembers .empty slashed).map Member.wireName? ≠ [some "a\\b"] := by
  have hkeyed {model : Model} (hall : ∀ entry ∈ model.fields.entries, entry.2.key = entry.1)
      (key : String) (field : Field) (h : model.fields.get? key = some field) : field.key = key :=
    hall (key, field) (Table.get?_eq_some_iff.1 h)
  have hlabelled : labelled.fields.keys = ["%", "say \"hi\"", "type"] := by decide +kernel
  have hslashed : slashed.fields.keys = ["a\\b"] := by decide +kernel
  have hall := Sdk.wireNames_fieldMembers_iff .empty labelled (hkeyed (by decide +kernel))
  have hone := Sdk.wireNames_fieldMembers_iff .empty slashed (hkeyed (by decide +kernel))
  rw [hlabelled] at hall
  rw [hslashed] at hone
  exact ⟨hall.2 (by decide), fun heq => absurd (hone.1 heq) (by decide)⟩

end ClientForge
