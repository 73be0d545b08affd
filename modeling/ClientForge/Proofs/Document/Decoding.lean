/-
  Decoding does not depend on the order of members.

  A document is decoded from a tree of values, and the members of an object may stand in the tree in
  any order.  Two trees that differ in nothing else are twins (`Twins`), and a way to read a tree is
  blind if it gives the same for twins (`Blind`).  That the small readers are blind — a text, a
  flag, a list, a map, a member under a key — is shown with them; here it is shown of the records.

  Every kind of record is put together from the members of ONE tree, each of them read under a key of
  its own.  So the record is the same for twins if each of its members is read blindly, and a proof
  names the members one after the other, as the record has them.  The kinds follow one another as
  they nest: schemas, payloads and parameters, operations and paths, the components, the document.

  The one recursion is that of schemas.  It goes along the nesting that is left, not along the tree:
  with none left only an empty value is a schema, and a twin of an empty value is empty; with some
  left a schema reads its parts with less.  A schema is read in two ways, where it stands as a
  member and one level further down, and the record of a schema asks for both, so both are shown by
  one induction (`blind_schema_inner`).
-/
import ClientForge.Proofs.Document.Views

namespace ClientForge.Decode

open View Node

/-! ## Schemas -/

/-- Lists of twins give the same texts, or fail together. -/
theorem mapM_typedText? {items items' : List Node} (h : List.Forall₂ Twins items items') :
    items.mapM typedText? = items'.mapM typedText? := by
  refine mapM_congr (h.imp fun item item' htwins => ?_)
  cases htwins <;> rfl

/-- A type is one name or a list of names, and either is read blindly. -/
theorem blind_typeName (depth : Nat) : Blind (typeName? [] depth) := by
  refine Blind.bind_typed (fun node node' h => ?_) depth
  cases h with
  | scalar hs => rfl
  | list hitems =>
    dsimp only
    rw [mapM_typedText? hitems]
  | table => rfl

/-- A literal of an enumeration is a scalar, which has no members at all. -/
theorem blind_literal (depth : Nat) : Blind (literal? [] depth) := by
  refine Blind.bind_typed (fun node node' h => ?_) depth
  cases h <;> rfl

/-- What else an object may hold is a truth value or a schema, and the schema is read by `child`. -/
theorem blind_additional {child : Node → Option Schema} (hchild : Blind child) (depth : Nat) :
    Blind (additional? [] depth child) := by
  refine Blind.bind_typed (fun node node' h => ?_) depth
  cases h with
  | scalar hs => rfl
  | list hitems =>
    dsimp only
    rw [hchild _ _ (.list hitems)]
  | table hjson hdistinct hperm hkeys h =>
    dsimp only
    rw [hchild _ _ (.table hjson hdistinct hperm hkeys h)]

/-- The schema of the same members is the same. -/
theorem schemaOf?_eq {fields fields' : List (String × Node)} (hf : SameMembers fields fields')
    {child inner : Node → Option Schema} (hchild : Blind child) (hinner : Blind inner)
    (depth : Nat) :
    schemaOf? [] depth child inner fields = schemaOf? [] depth child inner fields' := by
  unfold schemaOf?
  simp only [hf.optional _ blind_text, hf.optional _ blind_flag,
    hf.optional _ (hinner.tableOf depth), hf.optional _ (hinner.listOf depth),
    hf.optional _ (blind_typeName depth), hf.optional _ (blind_text.listOf depth),
    hf.optional _ hchild, hf.optional _ ((blind_literal (depth - 1)).listOf depth),
    hf.optional _ (blind_additional hchild depth), hf.optional _ (blind_json depth)]

/-- **A schema** is read alike from twins, where it stands as a member as well as one level further
down. -/
theorem blind_schema_inner (depth : Nat) :
    Blind (schema? [] depth) ∧ Blind (innerSchema? [] depth) := by
  -- the two readers call each other with less depth left, so one induction carries both
  induction depth with
  | zero =>
    refine ⟨fun node node' h => ?_, fun node node' _ => ?_⟩
    · rw [schema?, schema?]
      cases h <;> rfl
    · rw [innerSchema?, innerSchema?]
  | succ depth ih =>
    obtain ⟨hchild, hinner⟩ := ih
    refine ⟨fun node node' h => ?_, fun node node' h => ?_⟩
    · rw [schema?, schema?]
      exact record?_bind_eq h fun fields fields' hf => schemaOf?_eq hf hchild hinner depth
    · rw [innerSchema?, innerSchema?]
      exact hchild _ _ h

/-- A schema where it stands as a member. -/
theorem blind_schema (depth : Nat) : Blind (schema? [] depth) := (blind_schema_inner depth).1

/-! ## Payloads and parameters -/

/-- An example has a value, which is kept as it is. -/
theorem blind_example (depth : Nat) : Blind (example? [] depth) := by
  intro node node' h
  refine record?_bind_eq h fun fields fields' hf => ?_
  simp only [hf.optional _ (blind_json (depth - 1))]

/-- A media type has a schema, an example and examples by name. -/
theorem blind_mediaType (depth : Nat) : Blind (mediaType? [] depth) := by
  intro node node' h
  refine record?_bind_eq h fun fields fields' hf => ?_
  simp only [hf.optional _ (blind_schema (depth - 1)), hf.optional _ (blind_json (depth - 1)),
    hf.optional _ ((blind_example (depth - 1 - 1)).tableOf (depth - 1))]

/-- The content of a payload is a table of media types. -/
theorem blind_content (depth : Nat) : Blind (content? [] depth) :=
  (blind_mediaType (depth - 1)).tableOf depth

/-- A parameter has a name, a place and a schema, unless it is a reference to one. -/
theorem blind_parameter (depth : Nat) : Blind (parameter? [] depth) := by
  intro node node' h
  refine record?_bind_eq h fun fields fields' hf => ?_
  simp only [hf.optional _ blind_text, hf.defaulted _ _ blind_text, hf.defaulted _ _ blind_flag,
    hf.optional _ (blind_schema (depth - 1))]

/-- A request body has its content, unless it is a reference to one. -/
theorem blind_requestBody (depth : Nat) : Blind (requestBody? [] depth) := by
  intro node node' h
  refine record?_bind_eq h fun fields fields' hf => ?_
  simp only [hf.optional _ blind_text, hf.defaulted _ _ blind_flag,
    hf.optional _ (blind_content (depth - 1))]

/-- A response has its content, unless it is a reference to one. -/
theorem blind_response (depth : Nat) : Blind (response? [] depth) := by
  intro node node' h
  refine record?_bind_eq h fun fields fields' hf => ?_
  simp only [hf.optional _ blind_text, hf.optional _ (blind_content (depth - 1))]

/-! ## Operations and the whole -/

/-- An operation: its identifier, its parameters, its body and its responses by status. -/
theorem blind_operation (depth : Nat) : Blind (operation? [] depth) := by
  intro node node' h
  refine record?_bind_eq h fun fields fields' hf => ?_
  simp only [hf.optional _ blind_text,
    hf.optional _ ((blind_parameter (depth - 1 - 1)).listOf (depth - 1)),
    hf.optional _ (blind_requestBody (depth - 1)),
    hf.defaulted _ _ ((blind_response (depth - 1 - 1)).tableOf (depth - 1))]

/-- A path: an operation for each method, and the parameters of all of them. -/
theorem blind_pathItem (depth : Nat) : Blind (pathItem? [] depth) := by
  intro node node' h
  refine record?_bind_eq h fun fields fields' hf => ?_
  simp only [hf.optional _ (blind_operation (depth - 1)),
    hf.optional _ ((blind_parameter (depth - 1 - 1)).listOf (depth - 1))]

/-- The components: a table of each of their kinds. -/
theorem blind_components (depth : Nat) : Blind (components? [] depth) := by
  intro node node' h
  refine record?_bind_eq h fun fields fields' hf => ?_
  simp only [hf.optional _ ((blind_schema (depth - 1 - 1)).tableOf (depth - 1)),
    hf.optional _ ((blind_response (depth - 1 - 1)).tableOf (depth - 1)),
    hf.optional _ ((blind_requestBody (depth - 1 - 1)).tableOf (depth - 1)),
    hf.optional _ ((blind_parameter (depth - 1 - 1)).tableOf (depth - 1))]

/-- The title and the version. -/
theorem blind_info (depth : Nat) : Blind (info? [] depth) := by
  intro node node' h
  refine record?_bind_eq h fun fields fields' hf => ?_
  simp only [hf.optional _ blind_text]

/-- A server has an address, and without one it is refused. -/
theorem blind_server (depth : Nat) : Blind (server? [] depth) := by
  intro node node' h
  refine record?_bind_eq h fun fields fields' hf => ?_
  exact bind_eq_of_rel (hf "url") fun _ _ htwins => by rw [blind_text _ _ htwins]

/-- **A document** is read alike from twins. -/
theorem blind_document (depth : Nat) : Blind (document? [] depth) := by
  intro node node' h
  refine record?_bind_eq h fun fields fields' hf => ?_
  simp only [hf.optional _ (blind_info (depth - 1)), hf.optional _ (blind_components (depth - 1)),
    hf.defaulted _ _ ((blind_server (depth - 1 - 1)).listOf (depth - 1)),
    hf.defaulted _ _ ((blind_pathItem (depth - 1 - 1)).tableOf (depth - 1))]

end ClientForge.Decode
