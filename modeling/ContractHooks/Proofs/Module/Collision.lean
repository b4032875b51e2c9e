-- When names of hooks meet. In one contract a hook that prepares a call meets no other one, so that
-- what stands behind the contract's name decides alone; in two contracts a function or an event that
-- both have can still get one name, where one contract is named after the other.
import ContractHooks.Proofs.Hook.Name
import ContractHooks.Proofs.Module.Append

namespace ContractHooks

/-! ## Endings -/

/-- What stands behind the name of a contract in the names of its own hook and of its general hooks,
those that prepare a call left out. -/
def generalEndings (groups : List Abi.Group) : List String :=
  let has (cls : Abi.GroupClass) : Bool := groups.any fun g => g.groupClass == cls
  [""] ++ (if has .read then ["Read"] else []) ++ (if has .write then ["Write"] else [])
    ++ (if has .event then ["Event"] else [])

/-- The names with capitals of the groups of a class. -/
def capitals (groups : List Abi.Group) (cls : Abi.GroupClass) : List String :=
  (groups.filter fun g => g.groupClass == cls).map fun g => Text.pascal g.name

/-- What stands behind the name of a contract in the names of all its hooks, those that prepare a
call left out: the endings that these have are among the others. -/
def endings (abi : List Abi.Item) : List String :=
  let groups := Abi.groups abi
  generalEndings groups ++ (capitals groups .read ++ capitals groups .write
    ++ (capitals groups .event).map ("On" ++ ·))

/-- The ending of the hooks of a group. -/
def groupEnding : Abi.Group → String
  | .read o | .write o => Text.pascal o.name
  | .event o => "On" ++ Text.pascal o.name

/-- The endings of groups, class by class. -/
theorem map_groupEnding_perm (groups : List Abi.Group) :
    (groups.map groupEnding).Perm (capitals groups .read ++ capitals groups .write
      ++ (capitals groups .event).map ("On" ++ ·)) := by
  induction groups with
  | nil => exact List.Perm.refl _
  | cons g groups ih =>
    have hfront := ih.cons (groupEnding g)
    cases g with
    | read o => exact hfront
    | write o => exact hfront.trans (List.perm_middle.symm.append_right _)
    | event o => exact hfront.trans List.perm_middle.symm

/-! ## The hooks of a contract -/

/-- The endings of those hooks that prepare a call, or of those that do not. -/
def endingsOf (prepares : Bool) (hooks : List Hook) : List String :=
  (hooks.filter fun h => h.kind.prepares == prepares).map fun h => h.kind.ending

theorem endingsOf_append (prepares : Bool) (a b : List Hook) :
    endingsOf prepares (a ++ b) = endingsOf prepares a ++ endingsOf prepares b := by
  unfold endingsOf
  rw [List.filter_append, List.map_append]

theorem endingsOf_false_general (groups : List Abi.Group) :
    endingsOf false (Hook.general groups) = generalEndings groups := by
  unfold Hook.general generalEndings
  generalize (fun cls => groups.any fun g => g.groupClass == cls) = has
  dsimp only
  cases has .read <;> cases has .write <;> cases has .event <;> rfl

theorem endingsOf_true_general (groups : List Abi.Group) :
    (endingsOf true (Hook.general groups)).Sublist (generalEndings groups) := by
  unfold Hook.general generalEndings
  generalize (fun cls => groups.any fun g => g.groupClass == cls) = has
  dsimp only
  cases has .read <;> cases has .write <;> cases has .event <;> decide

/-- Each group has one hook that prepares no call. -/
theorem endingsOf_false_groups (groups : List Abi.Group) :
    endingsOf false (groups.flatMap Hook.ofGroup) = groups.map groupEnding := by
  induction groups with
  | nil => rfl
  | cons g groups ih =>
    rw [List.flatMap_cons, endingsOf_append, ih, List.map_cons]
    cases g <;> rfl

/-- A hook of a group that prepares a call has the ending of the group. -/
theorem endingsOf_true_groups (groups : List Abi.Group) :
    (endingsOf true (groups.flatMap Hook.ofGroup)).Sublist (groups.map groupEnding) := by
  induction groups with
  | nil => exact List.Sublist.refl _
  | cons g groups ih =>
    rw [List.flatMap_cons, endingsOf_append, List.map_cons]
    cases g with
    | read o | event o => exact ih.cons _
    | write o => exact ih.cons_cons _

/-- The hooks that prepare no call have the endings of their contract. -/
theorem endingsOf_false_perm (abi : List Abi.Item) :
    (endingsOf false (Hook.all abi)).Perm (endings abi) := by
  unfold Hook.all endings
  rw [endingsOf_append, endingsOf_false_general, endingsOf_false_groups]
  exact (map_groupEnding_perm _).append_left _

/-- A hook that prepares a call has beside it one that does not and that has its ending. -/
theorem endingsOf_true_sublist (abi : List Abi.Item) :
    (endingsOf true (Hook.all abi)).Sublist (endingsOf false (Hook.all abi)) := by
  unfold Hook.all
  rw [endingsOf_append, endingsOf_append, endingsOf_false_general, endingsOf_false_groups]
  exact (endingsOf_true_general _).append (endingsOf_true_groups _)

/-! ## One contract -/

/-- Where a value tells a cut into two parts and something else, the values of a list differ just
where this something does in each of the parts. -/
theorem nodup_map_iff_of_parts {α β γ : Type} {f : α → β} {g : α → γ} {p : α → Bool}
    (h : ∀ a b, f a = f b ↔ p a = p b ∧ g a = g b) (l : List α) :
    (l.map f).Nodup ↔
      ((l.filter fun a => p a == true).map g).Nodup ∧
        ((l.filter fun a => p a == false).map g).Nodup := by
  have hmem (a : α) (l : List α) :
      f a ∈ l.map f ↔ g a ∈ (l.filter fun b => p b == p a).map g := by
    simp only [List.mem_map, List.mem_filter, h, beq_iff_eq, and_assoc]
  induction l with
  | nil => simp
  | cons a l ih =>
    rw [List.map_cons, List.nodup_cons]
    refine (and_congr (not_congr (hmem a l)) ih).trans ?_
    cases hp : p a with
    | true => simp [hp, and_assoc]
    | false => simp [hp, and_left_comm]

/-- The names of the hooks of a contract differ just where its endings do. -/
theorem nodup_hookNames_iff {contract : String} (hne : Text.pascal contract ≠ "")
    (hplain : ¬ "Prepare".toList <+: (Text.pascal contract).toList) (abi : List Abi.Item) :
    ((Hook.all abi).map fun h => h.kind.hookName contract).Nodup ↔ (endings abi).Nodup := by
  have hparts : ((Hook.all abi).map fun h => h.kind.hookName contract).Nodup ↔
      (endingsOf true (Hook.all abi)).Nodup ∧ (endingsOf false (Hook.all abi)).Nodup :=
    nodup_map_iff_of_parts
      (fun g h : Hook => Hook.Kind.hookName_eq_iff hne hplain g.kind h.kind) _
  rw [hparts, ← (endingsOf_false_perm abi).nodup_iff]
  exact and_iff_right_of_imp fun h => h.sublist (endingsOf_true_sublist abi)

/-- With the usual toggles no hook is left out. -/
theorem hookNames_all (c : Contract) :
    hookNames {} c = (Hook.all c.abi).map fun h => h.kind.hookName c.name := by
  have hall : ∀ h ∈ Hook.all c.abi, ({} : Hook.Toggles).enables h.kind = true := by
    intro h _
    cases h.kind <;> rfl
  rw [hookNames, plan, List.filter_eq_self.2 hall]

/-- A contract that is resolved, and whose name with capitals has something in it and does not start
with `Prepare`, can be run just where no two of its endings are the same: the empty one, the words
for the classes of entries that it has, and the names with capitals of its functions and, with `On`
before them, of its events. No hook that prepares a call gets the name of one that does not. -/
theorem a_contract_can_be_run_just_where_its_endings_differ {c : Contract} {target : Target}
    (hc : c.target = .ok target) (hne : Text.pascal c.name ≠ "")
    (hplain : ¬ "Prepare".toList <+: (Text.pascal c.name).toList) (dialect : Dialect) :
    ((∃ o, generate {} dialect [c] = .ok o) ↔ (endings c.abi).Nodup) ∧
    ∀ k l : Hook.Kind, k.prepares = true → l.prepares = false →
      k.hookName c.name ≠ l.hookName c.name := by
  refine ⟨?_, fun k l hk hl => Hook.hookName_ne_of_prepares hne hplain hk hl⟩
  have hresolved : ∀ d ∈ [c], ∃ target, d.target = .ok target := by
    intro d hd
    obtain rfl := List.mem_singleton.1 hd
    exact ⟨target, hc⟩
  rw [succeeds_iff, and_iff_right hresolved, List.flatMap_singleton, ← hookNames_eq_plannedNames,
    hookNames_all]
  exact nodup_hookNames_iff hne hplain c.abi

/-- A vault may have a total to read, but not a function that is called like the hook for all that
can be read. -/
theorem a_vault_may_have_a_total_but_no_read :
    (∃ o, generate {} .typescript [readingContract "Vault" "total"] = .ok o) ∧
    ¬ ∃ o, generate {} .typescript [readingContract "Vault" "read"] = .ok o := by
  have htotal := a_contract_can_be_run_just_where_its_endings_differ
    (c := readingContract "Vault" "total") rfl (by decide) (by decide) .typescript
  have hread := a_contract_can_be_run_just_where_its_endings_differ
    (c := readingContract "Vault" "read") rfl (by decide) (by decide) .typescript
  exact ⟨htotal.1.2 (by decide), fun h => absurd (hread.1.1 h) (by decide)⟩

/-! ## Two contracts -/

/-- Where two contracts have names that differ with capitals, hooks of theirs for functions or
events of one name get one name just where one contract is named after the other: by `Prepare`
before its name if the one prepares a call and the other does not, by `On` behind it if the one
is for an event and the other is not, or by both, each on its side. -/
theorem two_contracts_share_a_name_just_where_theirs_meet {a b : String}
    (h : Text.pascal a ≠ Text.pascal b) {name : String} {k l : Hook.Kind}
    (hk : k.base? = some name) (hl : l.base? = some name) :
    k.hookName a = l.hookName b ↔
      k.Meets l (Text.pascal a) (Text.pascal b) ∨ l.Meets k (Text.pascal b) (Text.pascal a) := by
  rw [k.hookName_eq_framed a hk, l.hookName_eq_framed b hl, String.append_left_inj,
    String.append_right_inj]
  exact Hook.Kind.framed_eq_iff h hk hl

/-- A vault and a bank that both deposit share no name, but the event of a vault has the name of the
function of a contract that is called after it. -/
theorem a_vault_shares_names_with_what_is_called_after_it :
    (Hook.Kind.prepareFunctionWrite "deposit").hookName "Vault" ≠
      (Hook.Kind.functionWrite "deposit").hookName "Bank" ∧
    (Hook.Kind.itemEvent "deposit").hookName "Vault" =
      (Hook.Kind.functionWrite "deposit").hookName "VaultOn" := by
  have hbank := two_contracts_share_a_name_just_where_theirs_meet (a := "Vault") (b := "Bank")
    (by decide) (k := .prepareFunctionWrite "deposit") (l := .functionWrite "deposit") rfl rfl
  have hon := two_contracts_share_a_name_just_where_theirs_meet (a := "Vault") (b := "VaultOn")
    (by decide) (k := .itemEvent "deposit") (l := .functionWrite "deposit") rfl rfl
  have hnone : Text.pascal "Bank" ≠ "Prepare" ++ Text.pascal "Vault" := by decide
  have hafter : Text.pascal "VaultOn" = Text.pascal "Vault" ++ "On" := by decide
  exact ⟨fun h => (hbank.1 h).elim hnone id, hon.2 (.inl hafter)⟩

/-- A contract with one function that writes, under the usual names. -/
def writingContract (name function : String) : Contract :=
  ⟨name, [.function ⟨function, [], [], .nonpayable⟩], none, .standard name false⟩

/-- The hook that prepares a deposit to a vault has the name of the hook for a deposit to a contract
called `PrepareVault`, and the two contracts cannot be in one run. -/
theorem a_vault_and_what_prepares_it_share_a_name :
    Text.pascal "Vault" ≠ Text.pascal "PrepareVault" ∧
    (Hook.Kind.prepareFunctionWrite "deposit").hookName "Vault" =
      (Hook.Kind.functionWrite "deposit").hookName "PrepareVault" ∧
    generate { contractWrite := false, prepareContractWrite := false } .javascript
        [writingContract "Vault" "deposit", writingContract "PrepareVault" "deposit"] =
      .error (.duplicateHook "usePrepareVaultDeposit" "PrepareVault") :=
  ⟨by decide, by decide, rfl⟩

end ContractHooks
