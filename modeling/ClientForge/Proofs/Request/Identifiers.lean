/-
  The identifiers of a method's parameters.

  A method has a parameter for each parameter of its endpoint, and in its body it declares locals of its
  own.  If a parameter had the name of a local, or of the receiver, the body would mean something else
  from where the local is declared.

  The identifiers differ from one another, and none is the receiver or a local that the body declares
  (`paramIdents_not_reserved`).  For the first, each wish is granted a name that is free.  For the second
  there is only a rule about wishes: a key that would be called as a local gets an underscore behind it.
  That a number then does not lead back to a reserved name is seen from the underscore that comes with
  it, since no reserved name has one (`not_reserved_of_underscore`).

  Not every name that the body uses is reserved: the function that puts the query behind the path is
  called by a plain name and is not among the locals.  What follows from that is said where the query
  is.
-/
import ClientForge.Proofs.Naming.FieldNames
import ClientForge.Sdk.Client

namespace ClientForge.Sdk

/-- The names that no parameter of a method may have: those of the receiver and of the locals. -/
def reservedNames : List String := "self" :: bodyLocals

/-- A name with an underscore is not reserved. -/
theorem not_reserved_of_underscore {ident : String} (h : '_' ∈ ident.toList) :
    ident ∉ reservedNames := by
  intro hmem
  have hnone : ∀ name ∈ reservedNames, '_' ∉ name.toList := by decide
  exact hnone ident hmem h

/-- So no name is with an underscore behind it. -/
theorem append_underscore_not_reserved (ident : String) : ident ++ "_" ∉ reservedNames := by
  apply not_reserved_of_underscore
  rw [String.toList_append]
  exact List.mem_append_right _ (by decide)

/-- A wish is never for a reserved name. -/
theorem paramIdent_not_reserved (index : Nat) (field : Field) :
    paramIdent index field ∉ reservedNames := by
  unfold paramIdent
  cases hident : Naming.fieldIdent field.key with
  | error cause =>
    apply not_reserved_of_underscore
    rw [String.toList_append]
    exact List.mem_append_left _ (by decide)
  | ok ident =>
    dsimp only
    split
    · exact append_underscore_not_reserved ident
    · rename_i hlocal
      intro hmem
      rcases List.mem_cons.1 hmem with heq | hmem
      · exact (Naming.identFor_of_fieldIdent hident).legal.ne_self heq
      · exact hlocal (List.contains_iff_mem.2 hmem)

/-- What a parameter wishes for has the characters of an identifier. -/
theorem identShaped_paramIdent (index : Nat) (field : Field) :
    Naming.IdentShaped (paramIdent index field) := by
  have hprefix : Naming.IdentShaped "param_" := by decide
  have hunderscore : Naming.IdentShaped "_" := by decide
  unfold paramIdent
  cases hident : Naming.fieldIdent field.key with
  | error cause => exact hprefix.append (Naming.identShaped_decimalText index)
  | ok ident =>
    have hshaped := Naming.identShaped_fieldIdent hident
    dsimp only
    split
    · exact hshaped.append hunderscore
    · exact hshaped

/-! ## The row of identifiers -/

/-- There is an identifier for each parameter. -/
theorem length_paramIdents (endpoint : Endpoint) :
    (paramIdents endpoint).length = endpoint.params.length := by
  rw [paramIdents, Names.length_claimIdents, List.length_mapIdx]

/-- The identifiers differ. -/
theorem paramIdents_nodup (endpoint : Endpoint) : (paramIdents endpoint).Nodup :=
  Names.claimIdents_nodup _ _

/-- An identifier is the one wished for by a parameter, or that one with a number after it. -/
theorem exists_paramIdent {endpoint : Endpoint} {ident : String}
    (h : ident ∈ paramIdents endpoint) :
    ∃ index field, ident = paramIdent index field ∨
      ∃ n, ident = paramIdent index field ++ "_" ++ decimalText n := by
  obtain ⟨wish, hwish, heq⟩ := Names.claimIdents_eq h
  obtain ⟨index, hindex, hparam⟩ := List.mem_mapIdx.1 hwish
  refine ⟨index, endpoint.params[index], ?_⟩
  rw [hparam]
  exact heq

/-- **No identifier is reserved,** whatever the keys of the parameters are. -/
theorem paramIdents_not_reserved {endpoint : Endpoint} {ident : String}
    (h : ident ∈ paramIdents endpoint) : ident ∉ reservedNames := by
  obtain ⟨index, field, heq | ⟨n, heq⟩⟩ := exists_paramIdent h
  · rw [heq]
    exact paramIdent_not_reserved index field
  · -- the number stands behind an underscore
    apply not_reserved_of_underscore
    rw [heq, String.toList_append, String.toList_append]
    exact List.mem_append_left _ (List.mem_append_right _ (by decide))

/-- They have the characters of identifiers. -/
theorem identShaped_paramIdents {endpoint : Endpoint} {ident : String}
    (h : ident ∈ paramIdents endpoint) : Naming.IdentShaped ident := by
  refine Naming.identShaped_claimIdents (fun wish hwish => ?_) h
  obtain ⟨index, _, rfl⟩ := List.mem_mapIdx.1 hwish
  exact identShaped_paramIdent index _

end ClientForge.Sdk
