-- When contracts of a project share constants. The constants of an entry that chooses no names are
-- its name, spelled without the first capital, with an ending for each; the contract's own hook is
-- the name spelled with it. So constants are shared just where own hooks are, and a run in which
-- every contract has its own hook shares none.
import ContractHooks.Proofs.Hook.Given
import ContractHooks.Proofs.Project.Runnable
import ContractHooks.Proofs.Text.Letters

namespace ContractHooks

/-! ## Standard names -/

/-- The names of constants, in order. -/
def ConstantNames.listed (k : ConstantNames) : List String :=
  k.abi :: (k.address.toList ++ k.config.toList)

namespace Entry

/-- The entry has an ASCII name and chooses no names for its constants. -/
structure IsPlain (e : Entry) : Prop where
  ascii : Text.IsAscii e.name.toList
  abiName : e.abiName = none
  addressName : e.addressName = none
  configName : e.configName = none

/-- What standard names of constants end in. -/
def standardEndings : List String := ["Abi", "Address", "Config"]

variable {a b e : Entry}

theorem IsPlain.abi_mem (h : e.IsPlain) : Text.camel e.name ++ "Abi" ∈ e.constants.listed := by
  simp [ConstantNames.listed, constants, ConstantNames.standard, h.abiName]

theorem IsPlain.of_mem (h : e.IsPlain) {n : String} (hn : n ∈ e.constants.listed) :
    ∃ ending ∈ standardEndings, n = Text.camel e.name ++ ending := by
  cases ha : e.address <;>
    simp [ConstantNames.listed, constants, ConstantNames.standard, h.abiName, h.addressName,
      h.configName, ha] at hn
  · rcases hn with rfl | rfl <;> exact ⟨_, by simp [standardEndings], rfl⟩
  · rcases hn with rfl | rfl | rfl <;> exact ⟨_, by simp [standardEndings], rfl⟩

/-- An ending is told by its last letter, so that what stands before it can be told as well. -/
theorem append_ending_inj {s t x y : String} (hx : x ∈ standardEndings)
    (hy : y ∈ standardEndings) (h : s ++ x = t ++ y) : s = t := by
  have hne : ∀ x ∈ standardEndings, x.toList ≠ [] := by decide
  have hlast : ∀ x ∈ standardEndings, ∀ y ∈ standardEndings,
      x.toList.getLast? = y.toList.getLast? → x = y := by decide
  have hchars := congrArg (fun u => u.toList.getLast?) h
  simp only [String.toList_append] at hchars
  rw [List.getLast?_append_of_ne_nil _ (hne x hx), List.getLast?_append_of_ne_nil _ (hne y hy)]
    at hchars
  rw [hlast x hx y hy hchars] at h
  exact (String.append_left_inj _).1 h

/-- Two plain entries share a constant just where their names are spelled alike. -/
theorem shares_iff (ha : a.IsPlain) (hb : b.IsPlain) :
    (∃ n ∈ a.constants.listed, n ∈ b.constants.listed) ↔
      Text.pascal a.name = Text.pascal b.name := by
  rw [← Text.camel_eq_iff ha.ascii hb.ascii]
  constructor
  · rintro ⟨n, hna, hnb⟩
    obtain ⟨x, hx, rfl⟩ := ha.of_mem hna
    obtain ⟨y, hy, h⟩ := hb.of_mem hnb
    exact append_ending_inj hx hy h
  · intro h
    exact ⟨_, ha.abi_mem, h ▸ hb.abi_mem⟩

end Entry

/-! ## Contracts of a run -/

theorem ChosenFor.map_constants {entries : List Entry} {contracts : List Contract}
    (h : ChosenFor entries contracts) :
    contracts.map Contract.constants = entries.map Entry.constants := by
  induction h with
  | nil => rfl
  | cons hc _ ih =>
    obtain ⟨abi, rfl⟩ := hc
    rw [List.map_cons, List.map_cons, ih]
    rfl

/-- Plain entries whose own hooks differ have no constant in common. -/
theorem Entry.pairwise_disjoint {entries : List Entry} (hplain : ∀ e ∈ entries, e.IsPlain)
    (h : (entries.map fun e => Text.pascal e.name).Nodup) :
    entries.Pairwise fun a b => a.constants.listed.Disjoint b.constants.listed := by
  refine (List.pairwise_map.1 h).imp_of_mem fun ha hb hne n hna hnb => ?_
  exact hne ((Entry.shares_iff (hplain _ ha) (hplain _ hb)).1 ⟨n, hna, hnb⟩)

/-- Contracts whose constants are apart are referred to by different names. -/
theorem disjoint_targetNames {c d : Contract}
    (h : c.constants.listed.Disjoint d.constants.listed) {t u : Target} (ht : c.target = .ok t)
    (hu : d.target = .ok u) : (Hook.targetNames t).Disjoint (Hook.targetNames u) :=
  fun _ hn hm => h (targetNames_subset_constantNames ht hn) (targetNames_subset_constantNames hu hm)

/-! ## The law -/

/-- Two entries with ASCII names that choose no names for their constants share a constant just where
their contracts' own hooks get one name. So in a run over such entries that succeeds, where own hooks
are wanted, no two contracts share a constant, and their hooks do not refer to one. -/
theorem standard_constants_are_shared_just_where_own_hooks_are :
    (∀ a b : Entry, a.IsPlain → b.IsPlain →
      ((∃ n ∈ a.constants.listed, n ∈ b.constants.listed) ↔
        Hook.Kind.contract.hookName a.name = Hook.Kind.contract.hookName b.name)) ∧
    ∀ (p : Project) (contracts : List Contract) (o : Output), (∀ e ∈ p.entries, e.IsPlain) →
      p.toggles.contract = true → ChosenFor p.entries contracts →
      generate p.toggles p.dialect contracts = .ok o →
      contracts.Pairwise fun c d =>
        c.constants.listed.Disjoint d.constants.listed ∧
        ∀ t u, c.target = .ok t → d.target = .ok u →
          (Hook.targetNames t).Disjoint (Hook.targetNames u) := by
  constructor
  · intro a b ha hb
    rw [Entry.shares_iff ha hb]
    exact (String.append_right_inj _).symm
  · intro p contracts o hplain hcontract hchosen ho
    have hdistinct := (Project.runnable_of_run hchosen ho).distinct hcontract
    have hentries : (p.entries.map Entry.constants).Pairwise fun k l =>
        k.listed.Disjoint l.listed :=
      List.pairwise_map.2 (Entry.pairwise_disjoint hplain hdistinct)
    rw [← hchosen.map_constants, List.pairwise_map] at hentries
    exact hentries.imp fun h => ⟨h, fun _ _ ht hu => disjoint_targetNames h ht hu⟩

/-- An entry that chooses no names. -/
def plainEntry (name : String) (address : Option Address) : Entry where
  name := name
  abi := "abi.json"
  address := address
  abiName := none
  addressName := none
  configName := none

theorem isPlain_plainEntry {name : String} (h : Text.IsAscii name.toList)
    (address : Option Address) : (plainEntry name address).IsPlain :=
  ⟨h, rfl, rfl, rfl⟩

/-- A project of a vault and a bank. -/
def vaultAndBank : Project where
  out := none
  dialect := .typescript
  toggles := {}
  entries := [plainEntry "Vault" none, plainEntry "bank" (some (.single "0x00"))]

theorem vaultAndBank_runnable : vaultAndBank.Runnable where
  addressed := by
    intro e he
    rcases List.mem_cons.1 he with rfl | he
    · exact fun _ => by assumption
    · obtain rfl := List.mem_singleton.1 he
      exact fun _ => rfl
  distinct := fun _ => by decide

/-- Two vaults share a constant if their names differ in a first capital alone, and a vault and a
bank that are run together share none. -/
theorem two_vaults_share_a_constant_but_a_vault_and_a_bank_do_not :
    (∃ n ∈ (plainEntry "Vault" none).constants.listed,
      n ∈ (plainEntry "vault" none).constants.listed) ∧
    (vaultAndBank.entries.map fun e => e.contract []).Pairwise fun c d =>
      c.constants.listed.Disjoint d.constants.listed := by
  have hvault : (plainEntry "Vault" none).IsPlain := isPlain_plainEntry (by decide) none
  have hbank : (plainEntry "bank" (some (.single "0x00"))).IsPlain :=
    isPlain_plainEntry (by decide) _
  have hplain : ∀ e ∈ vaultAndBank.entries, e.IsPlain := by
    intro e he
    rcases List.mem_cons.1 he with rfl | he
    · exact hvault
    · exact List.mem_singleton.1 he ▸ hbank
  obtain ⟨hshared, hruns⟩ := standard_constants_are_shared_just_where_own_hooks_are
  obtain ⟨o, ho⟩ := vaultAndBank_runnable.succeeds
  constructor
  · exact (hshared _ _ hvault (isPlain_plainEntry (by decide) none)).2 (by decide)
  · exact (hruns vaultAndBank _ o hplain rfl (ChosenFor.empty _) ho).imp And.left

end ContractHooks
