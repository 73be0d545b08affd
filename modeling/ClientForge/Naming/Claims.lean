/-
  Handing out names that are still free.

  A name is handed out as it is wished for, or with the first number from 2 on that makes it
  free.  Among one more candidate than there are names taken one must be free, so the search is
  over a finite range and needs no other bound.
-/
import ClientForge.Ordered.Names
import ClientForge.Text.Digits

namespace ClientForge

namespace Names

/-- The first variant from 2 on that is free.  Its candidates are one more than the names taken, so
the last resort is out of reach for variants that differ. -/
def freeVariant (taken : Names) (variant : Nat → String) : String :=
  match (List.range' 2 (taken.size + 1)).find? fun n => !taken.contains (variant n) with
  | some n => variant n
  | none => variant (taken.size + 3)

/-- The name that a wish for `preferred` gets: itself if it is free, else its first free variant. -/
def freeName (taken : Names) (preferred : String) (variant : Nat → String) : String :=
  if taken.contains preferred then taken.freeVariant variant else preferred

/-- A free name for a type: the preferred one, or the preferred one with a number after it. -/
def freeTypeName (taken : Names) (preferred : String) : String :=
  taken.freeName preferred fun n => preferred ++ decimalText n

/-- A free identifier: the preferred one, or the preferred one with an underscore and a number. -/
def freeIdent (taken : Names) (preferred : String) : String :=
  taken.freeName preferred fun n => preferred ++ "_" ++ decimalText n

/-- Takes a free name for a type. -/
def claim (taken : Names) (preferred : String) : String × Names :=
  let name := taken.freeTypeName preferred
  (name, taken.insert name)

/-- Free identifiers for a row of wishes, each also free of those before it. -/
def claimIdents (taken : Names) : List String → List String
  | [] => []
  | preferred :: rest =>
    let ident := taken.freeIdent preferred
    ident :: claimIdents (taken.insert ident) rest

theorem freeName_of_not_mem {taken : Names} {preferred : String} {variant : Nat → String}
    (h : preferred ∉ taken) : taken.freeName preferred variant = preferred := by
  simp [freeName, h]

/-- What is claimed is taken afterwards. -/
theorem claim_mem (taken : Names) (preferred : String) :
    (taken.claim preferred).1 ∈ (taken.claim preferred).2 := by
  simp [claim]

/-- A claim takes nothing but its own name. -/
theorem mem_claim {taken : Names} {preferred x : String} :
    x ∈ (taken.claim preferred).2 ↔ x = (taken.claim preferred).1 ∨ x ∈ taken := by
  simp [claim]

example : (Names.ofList ["A", "A2"]).freeTypeName "A" = "A3" := by decide +kernel

end Names

end ClientForge
