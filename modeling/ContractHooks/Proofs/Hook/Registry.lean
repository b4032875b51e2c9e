-- The laws of the registry. A claim succeeds just where its name is free, and then takes it; a claim
-- that fails changes nothing. So however many claims are made in a row, and whatever becomes of them,
-- a name belongs to the contract that claimed it first.
import ContractHooks.Hook.Registry
import Mathlib.Data.List.Nodup

namespace ContractHooks.Hook.Registry

/-! ## One claim -/

/-- The names that are taken. -/
def names (r : Registry) : List String := r.owners.map Prod.fst

theorem names_empty : empty.names = [] := rfl

theorem owner?_eq_none_iff {r : Registry} {hook : String} :
    r.owner? hook = none ↔ hook ∉ r.names := by
  unfold owner? names
  rw [List.lookup_eq_none_iff, List.mem_map]
  constructor
  · rintro h ⟨p, hp, rfl⟩
    simpa using h p hp
  · intro h p hp
    rw [bne_iff_ne]
    rintro rfl
    exact h ⟨p, hp, rfl⟩

theorem claim_of_notMem {r : Registry} {hook : String} (contract : String)
    (h : hook ∉ r.names) : r.claim hook contract = .ok ⟨(hook, contract) :: r.owners⟩ :=
  claim_eq_ok_iff.2 ⟨owner?_eq_none_iff.2 h, rfl⟩

theorem claim_of_mem {r : Registry} {hook : String} (contract : String) (h : hook ∈ r.names) :
    r.claim hook contract = .error (.duplicateHook hook contract) := by
  unfold claim
  cases ho : r.owner? hook with
  | none => exact absurd h (owner?_eq_none_iff.1 ho)
  | some owner => rfl

theorem attempt_of_notMem {r : Registry} {c : Claim} (h : c.hook ∉ r.names) :
    r.attempt c = (.ok (), ⟨(c.hook, c.contract) :: r.owners⟩) := by
  rw [attempt, claim_of_notMem c.contract h]

theorem attempt_of_mem {r : Registry} {c : Claim} (h : c.hook ∈ r.names) :
    r.attempt c = (.error (.duplicateHook c.hook c.contract), r) := by
  rw [attempt, claim_of_mem c.contract h]

/-- A claim takes its name, or finds it taken. -/
theorem mem_names_attempt {r : Registry} {c : Claim} {n : String} :
    n ∈ (r.attempt c).2.names ↔ n ∈ r.names ∨ c.hook = n := by
  by_cases h : c.hook ∈ r.names
  · rw [attempt_of_mem h]
    refine ⟨.inl, fun hn => hn.elim id fun he => he ▸ h⟩
  · rw [attempt_of_notMem h]
    simp only [names, List.map_cons, List.mem_cons]
    rw [or_comm, eq_comm]

/-- A claim gives a name an owner only where it has none. -/
theorem owner?_attempt (r : Registry) (c : Claim) (n : String) :
    (r.attempt c).2.owner? n =
      (r.owner? n).or (if c.hook = n then some c.contract else none) := by
  by_cases h : c.hook ∈ r.names
  · rw [attempt_of_mem h]
    by_cases hn : c.hook = n
    · subst hn
      obtain ⟨owner, howner⟩ := Option.ne_none_iff_exists'.1 fun ho => owner?_eq_none_iff.1 ho h
      rw [howner, Option.some_or]
    · rw [if_neg hn, Option.or_none]
  · rw [attempt_of_notMem h, owner?_claim (claim_of_notMem c.contract h)]
    by_cases hn : c.hook = n
    · subst hn
      rw [if_pos rfl, if_pos rfl, owner?_eq_none_iff.2 h, Option.none_or]
    · rw [if_neg (Ne.symm hn), if_neg hn, Option.or_none]

theorem nodup_names_attempt {r : Registry} (h : r.names.Nodup) (c : Claim) :
    (r.attempt c).2.names.Nodup := by
  by_cases hc : c.hook ∈ r.names
  · rw [attempt_of_mem hc]
    exact h
  · rw [attempt_of_notMem hc]
    exact List.nodup_cons.2 ⟨hc, h⟩

/-! ## Claims in a row -/

theorem mem_names_after {r : Registry} {claims : List Claim} {n : String} :
    n ∈ (r.after claims).names ↔ n ∈ r.names ∨ ∃ c ∈ claims, c.hook = n := by
  induction claims generalizing r with
  | nil => simp [after]
  | cons c claims ih =>
    rw [after, ih, mem_names_attempt, or_assoc, List.exists_mem_cons_iff]

/-- Behind claims in a row a name has the owner that it had before or, if it had none, the contract
that was the first of them to claim it. -/
theorem owner?_after (r : Registry) (claims : List Claim) (n : String) :
    (r.after claims).owner? n =
      (r.owner? n).or ((claims.find? fun c => c.hook == n).map Claim.contract) := by
  induction claims generalizing r with
  | nil => simp [after]
  | cons c claims ih =>
    rw [after, ih, owner?_attempt, Option.or_assoc]
    by_cases hn : c.hook = n
    · rw [List.find?_cons_of_pos (by simpa using hn), if_pos hn, Option.some_or, Option.map_some]
    · rw [List.find?_cons_of_neg (by simpa using hn), if_neg hn, Option.none_or]

theorem nodup_names_after {r : Registry} (h : r.names.Nodup) (claims : List Claim) :
    (r.after claims).names.Nodup := by
  induction claims generalizing r with
  | nil => exact h
  | cons c claims ih => exact ih (nodup_names_attempt h c)

theorem after_take_succ (r : Registry) {claims : List Claim} {i : Nat} (hi : i < claims.length) :
    r.after (claims.take (i + 1)) = ((r.after (claims.take i)).attempt claims[i]).2 := by
  induction claims generalizing r i with
  | nil => cases hi
  | cons c claims ih =>
    cases i with
    | zero => rfl
    | succ i => exact ih (r.attempt c).2 (Nat.lt_of_succ_lt_succ hi)

/-- The answer to a claim in a row is the one that the registry behind the claims before it gives. -/
theorem getElem?_answers (r : Registry) {claims : List Claim} {i : Nat} (hi : i < claims.length) :
    (r.answers claims)[i]? = some ((r.after (claims.take i)).attempt claims[i]).1 := by
  induction claims generalizing r i with
  | nil => cases hi
  | cons c claims ih =>
    cases i with
    | zero => rfl
    | succ i => exact ih (r.attempt c).2 (Nat.lt_of_succ_lt_succ hi)

/-- On an empty registry the names that are taken before a claim are those of the claims before it. -/
theorem notMem_names_take_iff {claims : List Claim} (i : Fin claims.length) :
    claims[i].hook ∉ (empty.after (claims.take i)).names ↔
      ∀ j < i, claims[j].hook ≠ claims[i].hook := by
  rw [mem_names_after, names_empty, not_or, and_iff_right List.not_mem_nil]
  constructor
  · intro h j hj he
    refine h ⟨claims[j], ?_, he⟩
    exact List.mem_take_iff_getElem.2 ⟨j, Nat.lt_min.2 ⟨hj, j.isLt⟩, rfl⟩
  · rintro h ⟨c, hc, he⟩
    obtain ⟨j, hj, rfl⟩ := List.mem_take_iff_getElem.1 hc
    exact h ⟨j, by omega⟩ (by simp only [Fin.lt_def]; omega) he

/-! ## The law -/

/-- Of claims that are made in a row on an empty registry, one succeeds just where none before it was
for the same name. One that fails is told with its own name and its own contract, and leaves the
registry as it was. So in the end a name is owned by the contract that was the first to claim it, and
is listed once. -/
theorem a_name_belongs_to_its_first_claim (claims : List Claim) :
    (∀ i : Fin claims.length,
      ((empty.answers claims)[i.val]? = some (.ok ()) ↔
        ∀ j < i, claims[j].hook ≠ claims[i].hook) ∧
      ((empty.answers claims)[i.val]? = some (.ok ()) ∨
        (empty.answers claims)[i.val]? =
            some (.error (.duplicateHook claims[i].hook claims[i].contract)) ∧
          empty.after (claims.take (i + 1)) = empty.after (claims.take i))) ∧
    (∀ n, (empty.after claims).owner? n =
      (claims.find? fun c => c.hook == n).map Claim.contract) ∧
    (empty.after claims).names.Nodup := by
  refine ⟨fun i => ?_, fun n => ?_, nodup_names_after ?_ claims⟩
  · rw [getElem?_answers empty i.isLt, after_take_succ empty i.isLt, ← notMem_names_take_iff]
    by_cases h : claims[i].hook ∈ (empty.after (claims.take i)).names
    · have hfails := attempt_of_mem h
      simp only [Fin.getElem_fin] at hfails h ⊢
      rw [hfails]
      simp [h]
    · have hsucceeds := attempt_of_notMem h
      simp only [Fin.getElem_fin] at hsucceeds h ⊢
      rw [hsucceeds]
      simp [h]
  · rw [owner?_after, owner?_empty, Option.none_or]
  · rw [names_empty]
    exact List.nodup_nil

end ContractHooks.Hook.Registry
