-- The names that the hooks of one run have taken. The first contract to claim a name owns it;
-- a later claim is refused and told with the contract that made it. A run stops at the first claim
-- that is refused, but claims can go on behind one.
import ContractHooks.Error

namespace ContractHooks.Hook

/-- A claim: the name of a hook, and the contract that wants it. -/
structure Claim where
  hook : String
  contract : String
  deriving Repr, DecidableEq

/-- The names that are taken, each with the contract that owns it. -/
structure Registry where
  owners : List (String × String)
  deriving Repr, DecidableEq

namespace Registry

/-- The registry of a run that has claimed nothing. -/
def empty : Registry := ⟨[]⟩

/-- The contract that owns a name. -/
def owner? (r : Registry) (hook : String) : Option String := r.owners.lookup hook

/-- The registry after a contract has claimed a name. -/
def claim (r : Registry) (hook contract : String) : Except Error Registry :=
  match r.owner? hook with
  | some _ => .error (.duplicateHook hook contract)
  | none => .ok ⟨(hook, contract) :: r.owners⟩

/-- A claim whatever comes of it: the answer to it, and the registry behind it. -/
def attempt (r : Registry) (c : Claim) : Except Error Unit × Registry :=
  match r.claim c.hook c.contract with
  | .ok s => (.ok (), s)
  | .error e => (.error e, r)

/-- The answers to claims in a row, each made whatever became of the ones before it. -/
def answers (r : Registry) : List Claim → List (Except Error Unit)
  | [] => []
  | c :: cs => (r.attempt c).1 :: (r.attempt c).2.answers cs

/-- The registry behind claims in a row. -/
def after (r : Registry) : List Claim → Registry
  | [] => r
  | c :: cs => (r.attempt c).2.after cs

theorem owner?_empty (hook : String) : empty.owner? hook = none := rfl

/-- A claim succeeds just where the name has no owner. -/
theorem claim_eq_ok_iff {r s : Registry} {hook contract : String} :
    r.claim hook contract = .ok s ↔
      r.owner? hook = none ∧ s = ⟨(hook, contract) :: r.owners⟩ := by
  unfold claim
  cases h : r.owner? hook <;> simp [eq_comm]

/-- A claim changes the owner of its own name and of no other. -/
theorem owner?_claim {r s : Registry} {hook contract : String} (h : r.claim hook contract = .ok s)
    (other : String) : s.owner? other = if other = hook then some contract else r.owner? other := by
  obtain ⟨-, rfl⟩ := claim_eq_ok_iff.1 h
  simp only [owner?, List.lookup_cons]
  by_cases ho : other = hook
  · simp [ho]
  · have hb : (other == hook) = false := by simpa using ho
    simp [hb, ho]

end Registry

end ContractHooks.Hook
