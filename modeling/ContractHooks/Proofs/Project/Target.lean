-- How the contracts of a project are found. Names that are not chosen are filled in where there is
-- something to name, so that one contradiction is left: a chosen name of an address that the entry
-- does not have. No other one is told of any project.
import ContractHooks.Proofs.Command.Generate
import ContractHooks.Proofs.Module.Plan
import ContractHooks.Proofs.Project.Validity

namespace ContractHooks

/-! ## One entry -/

namespace Entry

/-- The name of the interface of an entry: the chosen one, or the standard one. -/
def abiConstant (e : Entry) : String := e.abiName.getD (Text.camel e.name ++ "Abi")

/-- The name of the address of an entry, if it has one. -/
def addressConstant (e : Entry) : String := e.addressName.getD (Text.camel e.name ++ "Address")

/-- The name of the object that holds both. -/
def configConstant (e : Entry) : String := e.configName.getD (Text.camel e.name ++ "Config")

theorem constants_abi (e : Entry) : e.constants.abi = e.abiConstant := rfl

theorem constants_config (e : Entry) : e.constants.config = some e.configConstant := by
  unfold constants configConstant
  cases e.configName <;> rfl

/-- An address has a name, and without one there is only a name that was chosen. -/
theorem constants_address (e : Entry) :
    e.constants.address =
      if e.address.isSome = true then some e.addressConstant else e.addressName := by
  unfold constants addressConstant ConstantNames.standard
  cases e.address <;> cases e.addressName <;> rfl

/-- The target of an entry's contract. -/
theorem target_contract (e : Entry) (abi : List Abi.Item) :
    (e.contract abi).target =
      match e.address with
      | none =>
        if e.addressName.isSome = true then .error (.metadata e.name .nameWithoutAddress)
        else .ok (.abi e.abiConstant)
      | some (.single _) => .ok (.address e.abiConstant e.addressConstant)
      | some (.deployments _) => .ok (.deployments e.configConstant) := by
  have haddress : (e.contract abi).constants.address = _ := e.constants_address
  have hconfig : (e.contract abi).constants.config = _ := e.constants_config
  have habi : (e.contract abi).constants.abi = _ := e.constants_abi
  have hwhere : (e.contract abi).address = e.address := rfl
  have hname : (e.contract abi).name = e.name := rfl
  unfold Contract.target
  rw [haddress, hconfig, habi, hwhere, hname]
  cases e.address with
  | none => cases e.addressName <;> rfl
  | some address => cases address <;> rfl

/-- The contract of an entry has a target just where a chosen name of an address comes with one. -/
theorem target_contract_iff (e : Entry) (abi : List Abi.Item) :
    (∃ target, (e.contract abi).target = .ok target) ↔
      (e.addressName.isSome = true → e.address.isSome = true) := by
  rw [target_contract]
  cases e.address with
  | none => cases e.addressName <;> simp
  | some address => cases address <;> simp

theorem target_contract_eq_error_iff (e : Entry) (abi : List Abi.Item) {error : Error} :
    (e.contract abi).target = .error error ↔
      (e.addressName ≠ none ∧ e.address = none) ∧
        error = .metadata e.name .nameWithoutAddress := by
  rw [target_contract]
  cases e.address with
  | none => cases e.addressName <;> simp [eq_comm]
  | some address => cases address <;> simp

end Entry

/-! ## Runs -/

/-- A run that fails because of metadata tells a contract of its that is not resolved. -/
theorem generate_eq_metadata {toggles : Hook.Toggles} {dialect : Dialect}
    {contracts : List Contract} {contract : String} {fault : MetadataFault}
    (h : generate toggles dialect contracts = .error (.metadata contract fault)) :
    ∃ c ∈ contracts, c.target = .error (.metadata contract fault) := by
  rw [generate_eq] at h
  cases hfirst : firstFault? [] (stepsOf (plannedNames toggles) contracts) with
  | none =>
    rw [hfirst] at h
    cases h
  | some error =>
    rw [hfirst] at h
    obtain rfl : error = .metadata contract fault := Except.error.inj h
    obtain ⟨before, step, after, hsteps, -, hfails⟩ := firstFailure_iff.2 hfirst
    cases hfails with
    | unresolved ht =>
      exact ⟨_, mem_stepsOf.1 (hsteps ▸ List.mem_append_right _ List.mem_cons_self), ht⟩

namespace Project

variable {read : FileReader} {base path : String} {p : Project} {contract : String}
  {fault : MetadataFault}

/-- A contract that is loaded is that of its entry, with some interface. -/
theorem exists_entry_of_mem {contracts : List Contract} (h : p.contracts read base = .ok contracts)
    {c : Contract} (hc : c ∈ contracts) : ∃ e ∈ p.entries, ∃ abi, c = e.contract abi := by
  obtain ⟨e, he, hload⟩ := exists_of_mem_mapM h hc
  unfold Entry.load at hload
  split at hload
  · cases hload
  · next abi _ => exact ⟨e, he, abi, (Except.ok.inj hload).symm⟩

/-- Interfaces that cannot be loaded are told as such. -/
theorem contracts_ne_metadata : p.contracts read base ≠ .error (.metadata contract fault) := by
  intro h
  obtain ⟨-, e, -, -, -, hload⟩ := mapM_eq_error_iff.1 h
  unfold Entry.load at hload
  split at hload <;> cases hload

theorem validate_ne_metadata : p.validate ≠ .error (.metadata contract fault) := by
  intro h
  unfold validate at h
  split at h
  · cases h
  · obtain ⟨-, e, -, -, -, hcheck⟩ :=
      (checkAll_eq_error_iff rfl Entry.checkEntries_cons).1 h
    cases Entry.check_eq_error_iff.1 hcheck

/-- Nothing is told of metadata before the contracts are resolved. -/
theorem load_ne_metadata : load read path ≠ .error (.metadata contract fault) := by
  intro h
  unfold load at h
  split at h
  · cases h
  · next text _ =>
    rcases bind_eq_error.1 h with h | ⟨q, -, h⟩
    · unfold ofText at h
      repeat' split at h
      all_goals cases h
    · rcases bind_eq_error.1 h with h | ⟨_, -, h⟩
      · exact validate_ne_metadata h
      · cases h

/-- What is told of the metadata of a project is that an entry of its names an address that it does
not have. -/
theorem generate_eq_metadata (h : p.generate read base = .error (.metadata contract fault)) :
    fault = .nameWithoutAddress ∧
      ∃ e ∈ p.entries, e.name = contract ∧ e.addressName ≠ none ∧ e.address = none := by
  rcases bind_eq_error.1 h with h | ⟨contracts, hcontracts, h⟩
  · exact absurd h contracts_ne_metadata
  · obtain ⟨c, hc, ht⟩ := ContractHooks.generate_eq_metadata h
    obtain ⟨e, he, abi, rfl⟩ := exists_entry_of_mem hcontracts hc
    obtain ⟨hoffends, htold⟩ := (e.target_contract_eq_error_iff abi).1 ht
    obtain ⟨rfl, rfl⟩ := Error.metadata.inj htold
    exact ⟨rfl, e, he, rfl, hoffends⟩

end Project

/-! ## The law -/

/-- The contract of an entry is resolved unless the entry names an address that it does not have,
which is then told of the contract. Otherwise it is found by its interface, by its address as well,
or, where it has one address for each chain, by the object that holds both, each under its chosen
name or else under the standard one. Nothing else is told of the metadata of a project: no request,
with whatever files, is refused because an address has no name or deployments have no object. -/
theorem an_entry_is_resolved_unless_it_names_an_address_it_does_not_have :
    (∀ (e : Entry) (abi : List Abi.Item),
      ((∃ error, (e.contract abi).target = .error error) ↔
        e.addressName ≠ none ∧ e.address = none) ∧
      (∀ error, (e.contract abi).target = .error error →
        error = .metadata e.name .nameWithoutAddress) ∧
      ∀ target, (e.contract abi).target = .ok target →
        target =
          match e.address with
          | none => .abi e.abiConstant
          | some (.single _) => .address e.abiConstant e.addressConstant
          | some (.deployments _) => .deployments e.configConstant) ∧
    (∀ (p : Project) (read : FileReader) (base contract : String) (fault : MetadataFault),
      p.generate read base = .error (.metadata contract fault) →
        fault = .nameWithoutAddress ∧
          ∃ e ∈ p.entries, e.name = contract ∧ e.addressName ≠ none ∧ e.address = none) ∧
    ∀ (r : Command.Request) (read : FileReader) (contract : String) (fault : MetadataFault),
      r.action read = .error (.metadata contract fault) → fault = .nameWithoutAddress := by
  refine ⟨fun e abi => ⟨?_, fun error h => ?_, fun target h => ?_⟩,
    fun p read base contract fault => Project.generate_eq_metadata,
    fun r read contract fault h => ?_⟩
  · simp only [e.target_contract_eq_error_iff abi, exists_and_left, exists_eq, and_true]
  · exact ((e.target_contract_eq_error_iff abi).1 h).2
  · rw [e.target_contract abi] at h
    cases haddress : e.address with
    | none =>
      rw [haddress] at h
      dsimp only at h
      split at h
      · cases h
      · exact (Except.ok.inj h).symm
    | some address =>
      rw [haddress] at h
      cases address <;> exact (Except.ok.inj h).symm
  · rcases Command.Request.action_eq_error.1 h with h | ⟨p, -, h⟩
    · exact absurd h Project.load_ne_metadata
    · exact (Project.generate_eq_metadata h).1

/-- A vault that may have an address and may name one. -/
def vaultEntry (address : Option Address) (addressName : Option String) : Entry where
  name := "Vault"
  abi := "vault.json"
  address := address
  abiName := none
  addressName := addressName
  configName := none

/-- A vault that is deployed on no chain is found by its object, and one that names an address which
it does not have is told, also of a project of it alone. -/
theorem a_vault_without_an_address_cannot_name_it :
    ((vaultEntry (some (.deployments (Deployments.ofList []))) none).contract []).target =
      .ok (.deployments "vaultConfig") ∧
    ((vaultEntry none (some "vaultAddress")).contract []).target =
      .error (.metadata "Vault" .nameWithoutAddress) ∧
    ∃ fault, Project.generate (fun _ => .ok "[]") ""
        ⟨none, .typescript, {}, [vaultEntry none (some "vaultAddress")]⟩ =
          .error (.metadata "Vault" fault) ∧ fault = .nameWithoutAddress := by
  obtain ⟨hentries, hprojects, -⟩ :=
    an_entry_is_resolved_unless_it_names_an_address_it_does_not_have
  obtain ⟨hfails, htold, -⟩ := hentries (vaultEntry none (some "vaultAddress")) []
  obtain ⟨hfails', -, hfound⟩ :=
    hentries (vaultEntry (some (.deployments (Deployments.ofList []))) none) []
  refine ⟨?_, ?_, ?_⟩
  · cases ht : ((vaultEntry (some (.deployments (Deployments.ofList []))) none).contract []).target
    with
    | error error => exact absurd (hfails'.1 ⟨error, ht⟩).1 (by decide)
    | ok target => rw [hfound target ht]; rfl
  · obtain ⟨error, herror⟩ := hfails.2 ⟨by decide, rfl⟩
    rw [herror, htold error herror]
    rfl
  · have hrun : Project.generate (fun _ => .ok "[]") ""
        ⟨none, .typescript, {}, [vaultEntry none (some "vaultAddress")]⟩ =
          .error (.metadata "Vault" .nameWithoutAddress) := rfl
    exact ⟨_, hrun, (hprojects _ _ _ _ _ hrun).1⟩

end ContractHooks
