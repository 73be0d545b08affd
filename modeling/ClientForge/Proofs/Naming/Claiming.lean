/-
  What a row of calls hands out.

  Names are handed out by a register of those that are taken.  A call keeps a name, or it claims one: it
  tries the name wished for, then that name with the numbers from two on, and takes the first one that
  is free.

  The program writes this as a loop without a bound, and the first question is whether it ends.  The
  loop is put down as it stands, as a relation between the names taken and the name it ends with
  (`Tries`, `Claims`).  Numbers that differ give names that differ, so among one more than there are
  names taken one is free; with that the loop ends, and it ends with one name only (`claims_iff`).  The
  function used elsewhere, which looks at a bounded number of candidates, gives that name.

  `Grants` says all that one claim does: the name it ends with, that it is the one wished for or that
  with the least number that makes it free, a bound on that number, and what is taken afterwards.

  For a row of calls (`claims_fresh`) the induction is along the row, with the names taken as what one
  call hands on to the next.  What has been handed out or kept stays taken (`mem_afterCall_of_mem`), so
  nothing is ever handed out that an earlier call has handed out or kept, whichever wishes are variants
  of one another: `A2` may be wished for, and then `A` twice.
-/
import ClientForge.Proofs.Naming.Fresh

namespace ClientForge.Names

/-! ## A claim and its tries -/

/-- `Tries taken preferred n name` — trying numbers behind the name wished for, from `n` on, ends
with the name: as long as one is taken, the next is tried. -/
inductive Tries (taken : Names) (preferred : String) : Nat → String → Prop
  | free {n : Nat} (h : preferred ++ decimalText n ∉ taken) :
      Tries taken preferred n (preferred ++ decimalText n)
  | next {n : Nat} {name : String} (h : preferred ++ decimalText n ∈ taken)
      (next : Tries taken preferred (n + 1) name) : Tries taken preferred n name

/-- `Claims taken preferred name` — claiming the name wished for ends with the name: with itself if
it is free, else with what its numbers end with. -/
inductive Claims (taken : Names) (preferred : String) : String → Prop
  | free (h : preferred ∉ taken) : Claims taken preferred preferred
  | numbered {name : String} (h : preferred ∈ taken) (tries : Tries taken preferred 2 name) :
      Claims taken preferred name

variable {taken : Names} {preferred name : String}

/-- Tries end with one name only. -/
theorem Tries.unique {n : Nat} {name' : String} (h : Tries taken preferred n name)
    (h' : Tries taken preferred n name') : name = name' := by
  induction h with
  | free hfree => cases h' with
    | free => rfl
    | next hmem => exact absurd hmem hfree
  | next hmem _ ih => cases h' with
    | free hfree => exact absurd hmem hfree
    | next _ hnext => exact ih hnext

/-- The tries end with the first number that is free. -/
theorem Tries.of_first {first n : Nat} (hle : first ≤ n)
    (hfree : preferred ++ decimalText n ∉ taken)
    (htaken : ∀ m, first ≤ m → m < n → preferred ++ decimalText m ∈ taken) :
    Tries taken preferred first (preferred ++ decimalText n) := by
  -- one number more is tried until the free one is come to
  induction hgap : n - first generalizing first with
  | zero =>
    obtain rfl : first = n := by omega
    exact .free hfree
  | succ gap ih =>
    refine .next (htaken first (Nat.le_refl _) (by omega)) (ih (by omega) ?_ (by omega))
    intro m hm hlt
    exact htaken m (by omega) hlt

/-- So does a claim. -/
theorem Claims.unique {name' : String} (h : Claims taken preferred name)
    (h' : Claims taken preferred name') : name = name' := by
  cases h with
  | free hfree => cases h' with
    | free => rfl
    | numbered hmem => exact absurd hmem hfree
  | numbered hmem tries => cases h' with
    | free hfree => exact absurd hmem hfree
    | numbered _ tries' => exact tries.unique tries'

/-- The two ways of a claim. -/
theorem claim_cases (taken : Names) (preferred : String) :
    (preferred ∉ taken ∧ (taken.claim preferred).1 = preferred) ∨
    (preferred ∈ taken ∧ ∃ n, 2 ≤ n ∧ (taken.claim preferred).1 = preferred ++ decimalText n ∧
      preferred ++ decimalText n ∉ taken ∧
      ∀ m, 2 ≤ m → m < n → preferred ++ decimalText m ∈ taken) :=
  taken.freeName_spec preferred (typeVariant_injective preferred)

/-- The name that a claim hands out is one that its tries end with. -/
theorem claims_claim (taken : Names) (preferred : String) :
    Claims taken preferred (taken.claim preferred).1 := by
  rcases taken.claim_cases preferred with ⟨hfree, heq⟩ | ⟨hmem, n, hn, heq, hfree, hfirst⟩
  · rw [heq]
    exact .free hfree
  · rw [heq]
    exact .numbered hmem (.of_first hn hfree hfirst)

/-- **A claim ends,** and with one name only. -/
theorem claims_iff : Claims taken preferred name ↔ name = (taken.claim preferred).1 :=
  ⟨fun h => h.unique (claims_claim taken preferred), fun heq => heq ▸ claims_claim taken preferred⟩

/-- What a claim does: which name it ends with, and what is taken after it. -/
structure Grants (taken : Names) (preferred name : String) (after : Names) : Prop where
  /-- Its tries end with this name and no other. -/
  ends : ∀ other, Claims taken preferred other ↔ other = name
  /-- A free name is handed out as it is wished for. -/
  wished : preferred ∉ taken → name = preferred
  /-- Else it gets the first number that makes it free, and this is no larger than the names taken
  allow. -/
  numbered : preferred ∈ taken → ∃ n, 2 ≤ n ∧ n ≤ taken.size + 2 ∧
    name = preferred ++ decimalText n ∧ ∀ m, 2 ≤ m → m < n → preferred ++ decimalText m ∈ taken
  /-- It was free. -/
  fresh : name ∉ taken
  /-- It is taken then, and nothing else is that was not. -/
  mem_after : ∀ other, other ∈ after ↔ other = name ∨ other ∈ taken

/-- A claim does all of this. -/
theorem grants_claim (taken : Names) (preferred : String) :
    Grants taken preferred (taken.claim preferred).1 (taken.claim preferred).2 where
  ends _ := claims_iff
  wished hfree := freeName_of_not_mem hfree
  numbered hmem := by
    rcases taken.claim_cases preferred with ⟨hfree, -⟩ | ⟨-, n, hn, heq, -, hfirst⟩
    · exact absurd hmem hfree
    · -- all numbers before the one found are taken, each by a name of its own
      have hle := taken.le_of_variants_mem (typeVariant_injective preferred) hfirst
      exact ⟨n, hn, hle, heq, hfirst⟩
  fresh := claim_not_mem taken preferred
  mem_after _ := mem_claim

/-! ## Rows of calls -/

/-- A call: a name is kept, or one is claimed. -/
inductive Call where
  | reserve (name : String)
  | claim (preferred : String)
deriving DecidableEq, Repr

/-- The names taken after a call. -/
def afterCall (taken : Names) : Call → Names
  | .reserve name => taken.insert name
  | .claim preferred => (taken.claim preferred).2

/-- The names taken after a row of calls. -/
def afterCalls (taken : Names) (calls : List Call) : Names := calls.foldl afterCall taken

/-- The names that a row of calls hands out, one for each claim. -/
def handedOut (taken : Names) : List Call → List String
  | [] => []
  | .reserve name :: rest => handedOut (taken.insert name) rest
  | .claim preferred :: rest =>
    (taken.claim preferred).1 :: handedOut (taken.claim preferred).2 rest

/-- **One call:** what was taken stays taken. -/
theorem mem_afterCall_of_mem (call : Call) (h : name ∈ taken) : name ∈ taken.afterCall call := by
  cases call with
  | reserve other => exact mem_insert.2 (Or.inr h)
  | claim preferred => exact mem_claim.2 (Or.inr h)

/-- What was taken stays taken, whatever is called. -/
theorem mem_afterCalls_of_mem (calls : List Call) (h : name ∈ taken) :
    name ∈ taken.afterCalls calls := by
  induction calls generalizing taken with
  | nil => exact h
  | cons call rest ih => exact ih (mem_afterCall_of_mem call h)

/-- A name that is kept is taken from then on. -/
theorem mem_afterCalls_of_reserve {calls : List Call} (h : .reserve name ∈ calls) :
    name ∈ taken.afterCalls calls := by
  induction calls generalizing taken with
  | nil => cases h
  | cons call rest ih =>
    rcases List.mem_cons.1 h with rfl | h
    · exact mem_afterCalls_of_mem rest (mem_insert.2 (Or.inl rfl))
    · exact ih h

/-- A name that is handed out is taken from then on. -/
theorem mem_afterCalls_of_handedOut {calls : List Call} (h : name ∈ taken.handedOut calls) :
    name ∈ taken.afterCalls calls := by
  induction calls generalizing taken with
  | nil => cases h
  | cons call rest ih => cases call with
    | reserve other => exact ih h
    | claim preferred =>
      rcases List.mem_cons.1 h with rfl | h
      · exact mem_afterCalls_of_mem rest (claim_mem taken preferred)
      · exact ih h

/-- Nothing is handed out that was taken before. -/
theorem not_mem_of_mem_handedOut {calls : List Call} (h : name ∈ taken.handedOut calls) :
    name ∉ taken := by
  induction calls generalizing taken with
  | nil => cases h
  | cons call rest ih => cases call with
    | reserve other => exact fun hmem => ih h (mem_insert.2 (Or.inr hmem))
    | claim preferred =>
      rcases List.mem_cons.1 h with rfl | h
      · exact claim_not_mem taken preferred
      · exact fun hmem => ih h (mem_claim.2 (Or.inr hmem))

/-- **The names handed out differ.** -/
theorem handedOut_nodup (taken : Names) (calls : List Call) : (taken.handedOut calls).Nodup := by
  induction calls generalizing taken with
  | nil => exact List.nodup_nil
  | cons call rest ih => cases call with
    | reserve other => exact ih _
    | claim preferred =>
      refine List.nodup_cons.2 ⟨fun hmem => ?_, ih _⟩
      exact not_mem_of_mem_handedOut hmem (claim_mem taken preferred)

/-- What two rows of calls hand out, one after the other. -/
theorem handedOut_append (taken : Names) (before after : List Call) :
    taken.handedOut (before ++ after) =
      taken.handedOut before ++ (taken.afterCalls before).handedOut after := by
  induction before generalizing taken with
  | nil => rfl
  | cons call rest ih => cases call with
    | reserve other => exact ih _
    | claim preferred => exact congrArg (_ :: ·) (ih _)

/-- **Every claim ends and hands out a fresh name,** whatever has been called before.  It grants the
wish, or the wish with the first number that is free; and the names of all claims differ from one
another, from those taken at first, and from those kept before. -/
theorem claims_fresh (taken : Names) (calls : List Call) :
    (taken.handedOut calls).Nodup ∧
    ∀ before preferred after, calls = before ++ .claim preferred :: after →
      ∃ name, Grants (taken.afterCalls before) preferred name
          (taken.afterCalls (before ++ [.claim preferred])) ∧
        taken.handedOut calls = taken.handedOut before ++ name ::
          (taken.afterCalls (before ++ [.claim preferred])).handedOut after ∧
        name ∉ taken ∧ name ∉ taken.handedOut before ∧ .reserve name ∉ before := by
  refine ⟨handedOut_nodup taken calls, ?_⟩
  rintro before preferred after rfl
  have hafter : taken.afterCalls (before ++ [.claim preferred]) =
      ((taken.afterCalls before).claim preferred).2 := by
    rw [afterCalls, List.foldl_append]
    rfl
  have hgrants := grants_claim (taken.afterCalls before) preferred
  rw [hafter]
  refine ⟨_, hgrants, handedOut_append taken before _, ?_, ?_, ?_⟩
  · exact fun hmem => hgrants.fresh (mem_afterCalls_of_mem before hmem)
  · exact fun hmem => hgrants.fresh (mem_afterCalls_of_handedOut hmem)
  · exact fun hmem => hgrants.fresh (mem_afterCalls_of_reserve hmem)

example : Names.empty.handedOut [.claim "A2", .claim "A", .claim "A", .reserve "A4", .claim "A"] =
    ["A2", "A", "A3", "A5"] := by decide +kernel

end ClientForge.Names
