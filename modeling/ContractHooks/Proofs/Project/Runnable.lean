-- Which projects can be run at all. Whatever the interfaces are, a run fails if an entry names an
-- address that it does not have, or if two contracts would take one name for their own hooks. If
-- neither is so, a run succeeds at least where all interfaces are empty.
import ContractHooks.Proofs.Module.Append
import ContractHooks.Proofs.Project.Target

namespace ContractHooks

/-! ## Entries -/

/-- With an empty interface a contract has no hooks but its own. -/
theorem plannedNames_contract_nil (t : Hook.Toggles) (e : Entry) :
    plannedNames t (e.contract []) = wanted t.contract ("use" ++ Text.pascal e.name) := by
  simp [plannedNames, wanted, Entry.contract, Abi.keys]

/-- Contracts that are made of entries, each with some interface. -/
def ChosenFor (entries : List Entry) (contracts : List Contract) : Prop :=
  List.Forall₂ (fun e c => ∃ abi, c = Entry.contract e abi) entries contracts

namespace ChosenFor

variable {entries : List Entry} {contracts : List Contract}

theorem map_name (h : ChosenFor entries contracts) :
    contracts.map Contract.name = entries.map Entry.name := by
  induction h with
  | nil => rfl
  | cons hc _ ih =>
    obtain ⟨abi, rfl⟩ := hc
    rw [List.map_cons, List.map_cons, ih]
    rfl

theorem resolved_iff (h : ChosenFor entries contracts) :
    (∀ c ∈ contracts, ∃ target, c.target = .ok target) ↔
      ∀ e ∈ entries, e.addressName.isSome = true → e.address.isSome = true := by
  induction h with
  | nil => simp
  | cons hc _ ih =>
    obtain ⟨abi, rfl⟩ := hc
    rw [List.forall_mem_cons, List.forall_mem_cons, ih, Entry.target_contract_iff]

/-- With empty interfaces contracts can be made of any entries. -/
theorem empty (entries : List Entry) :
    ChosenFor entries (entries.map fun e => e.contract []) := by
  rw [ChosenFor, List.forall₂_map_right_iff, List.forall₂_same]
  exact fun e _ => ⟨[], rfl⟩

end ChosenFor

/-! ## Names -/

/-- The names of the contracts' own hooks are among the planned ones, in order. -/
theorem ownNames_sublist {t : Hook.Toggles} (h : t.contract = true) (contracts : List Contract) :
    (contracts.map fun c => "use" ++ Text.pascal c.name).Sublist
      (contracts.flatMap (plannedNames t)) := by
  induction contracts with
  | nil => exact List.Sublist.refl _
  | cons c contracts ih =>
    have hown : "use" ++ Text.pascal c.name ∈ plannedNames t c := by
      simp [plannedNames, wanted, h]
    rw [List.map_cons, List.flatMap_cons]
    exact (List.singleton_sublist.2 hown).append ih

theorem nodup_ownNames_iff (names : List String) :
    (names.map fun n => "use" ++ Text.pascal n).Nodup ↔ (names.map Text.pascal).Nodup := by
  have huse : (names.map fun n => "use" ++ Text.pascal n) =
      (names.map Text.pascal).map fun n => "use" ++ n := by
    rw [List.map_map]
    rfl
  rw [huse]
  refine ⟨List.Nodup.of_map _, fun h => h.map fun a b hab => ?_⟩
  exact (String.append_right_inj _).1 hab

/-! ## Projects -/

namespace Project

/-- Every entry that names an address has one, and no two contracts take one name for their own
hooks, if these are wanted. -/
structure Runnable (p : Project) : Prop where
  addressed : ∀ e ∈ p.entries, e.addressName.isSome = true → e.address.isSome = true
  distinct : p.toggles.contract = true → (p.entries.map fun e => Text.pascal e.name).Nodup

variable {p : Project}

/-- A project on which a run succeeds, with whatever interfaces, can be run. -/
theorem runnable_of_run {contracts : List Contract} (h : ChosenFor p.entries contracts)
    {o : Output} (ho : ContractHooks.generate p.toggles p.dialect contracts = .ok o) :
    p.Runnable := by
  obtain ⟨hresolved, hnodup⟩ := succeeds_iff.1 ⟨o, ho⟩
  refine ⟨h.resolved_iff.1 hresolved, fun hcontract => ?_⟩
  have hown := hnodup.sublist (ownNames_sublist hcontract contracts)
  have hnames : (contracts.map fun c => "use" ++ Text.pascal c.name) =
      (p.entries.map Entry.name).map fun n => "use" ++ Text.pascal n := by
    rw [← h.map_name, List.map_map]
    rfl
  rw [hnames, nodup_ownNames_iff, List.map_map] at hown
  exact hown

/-- With empty interfaces the names of the contracts' own hooks are all that is planned. -/
theorem planned_of_empty (t : Hook.Toggles) (entries : List Entry) :
    (entries.map fun e => e.contract []).flatMap (plannedNames t) =
      if t.contract then (entries.map Entry.name).map fun n => "use" ++ Text.pascal n else [] := by
  rw [List.flatMap_map]
  simp only [plannedNames_contract_nil, wanted]
  cases t.contract with
  | false => exact List.flatMap_eq_nil_iff.2 fun _ _ => rfl
  | true =>
    rw [if_pos rfl, List.map_map, List.map_eq_flatMap]
    rfl

/-- A project that can be run is run with empty interfaces. -/
theorem Runnable.succeeds (h : p.Runnable) :
    ∃ o, ContractHooks.generate p.toggles p.dialect (p.entries.map fun e => e.contract []) =
      .ok o := by
  rw [succeeds_iff]
  refine ⟨(ChosenFor.empty p.entries).resolved_iff.2 h.addressed, ?_⟩
  rw [planned_of_empty]
  split
  · next hcontract =>
    rw [nodup_ownNames_iff, List.map_map]
    exact h.distinct hcontract
  · exact List.nodup_nil

/-! ## Files -/

/-- The contracts of a project are made of its entries, each with the interface of its file. -/
theorem chosenFor_of_contracts {read : FileReader} {base : String} {entries : List Entry}
    {contracts : List Contract} (h : entries.mapM (Entry.load read base) = .ok contracts) :
    ChosenFor entries contracts := by
  refine (mapM_eq_ok_iff.1 h).imp fun e c hc => ?_
  unfold Entry.load at hc
  split at hc
  · cases hc
  · next abi _ => exact ⟨abi, (Except.ok.inj hc).symm⟩

/-- Where every file has an empty interface, every contract has one. -/
theorem contracts_of_empty (base : String) (entries : List Entry) :
    entries.mapM (Entry.load (fun _ => .ok "[]") base) =
      .ok (entries.map fun e => e.contract []) := by
  rw [mapM_eq_ok_iff, List.forall₂_map_right_iff, List.forall₂_same]
  exact fun e _ => rfl

/-! ## The law -/

/-- There are interfaces with which a run over the project succeeds. -/
def HasRun (p : Project) : Prop :=
  ∃ contracts, ChosenFor p.entries contracts ∧
    ∃ o, ContractHooks.generate p.toggles p.dialect contracts = .ok o

theorem HasRun.runnable (h : p.HasRun) : p.Runnable := by
  obtain ⟨contracts, hchosen, o, ho⟩ := h
  exact runnable_of_run hchosen ho

/-- There are interfaces with which a run over a project succeeds just where every entry that names
an address has one and, if the contracts' own hooks are wanted, no two contracts take one name for
theirs. The same holds of files with which the project is run. -/
theorem a_project_can_be_run_iff (p : Project) :
    (p.HasRun ↔ p.Runnable) ∧ ((∃ read base o, p.generate read base = .ok o) ↔ p.Runnable) := by
  refine ⟨⟨HasRun.runnable, fun h => ⟨_, ChosenFor.empty p.entries, h.succeeds⟩⟩, ?_, fun h => ?_⟩
  · rintro ⟨read, base, o, ho⟩
    obtain ⟨contracts, hcontracts, ho⟩ := bind_eq_ok.1 ho
    exact runnable_of_run (chosenFor_of_contracts hcontracts) ho
  · obtain ⟨o, ho⟩ := h.succeeds
    exact ⟨fun _ => .ok "[]", "", o, bind_eq_ok.2 ⟨_, contracts_of_empty "" p.entries, ho⟩⟩

/-- A project with contracts of the given names and names of addresses, all of them without an
address. -/
def addresslessProject (contracts : List (String × Option String)) : Project where
  out := none
  dialect := .typescript
  toggles := {}
  entries := contracts.map fun c => ⟨c.1, "abi.json", none, none, c.2, none⟩

/-- A project is valid though one of its contracts names an address that it does not have, and one
is valid though two of its contracts have names that differ in the case of a letter alone. With
whatever interfaces, no run over them succeeds. -/
theorem valid_projects_that_cannot_be_run :
    ((addresslessProject [("Vault", some "vaultAddress")]).validate = .ok () ∧
      ¬ (addresslessProject [("Vault", some "vaultAddress")]).HasRun) ∧
    (addresslessProject [("Vault", none), ("vault", none)]).validate = .ok () ∧
      ¬ (addresslessProject [("Vault", none), ("vault", none)]).HasRun := by
  refine ⟨⟨rfl, fun h => ?_⟩, rfl, fun h => ?_⟩
  · have haddress := h.runnable.addressed _ List.mem_cons_self rfl
    cases haddress
  · have hdistinct := h.runnable.distinct rfl
    revert hdistinct
    decide

end Project

end ContractHooks
