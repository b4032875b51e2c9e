-- Fewer kinds of hooks. Where a run succeeds, the run that wants fewer kinds succeeds too, and its
-- hooks are those of the first that are still wanted, unchanged and in the same order. No choice of
-- kinds mends a contract whose metadata contradict its address.
import ContractHooks.Proofs.Module.Output

namespace ContractHooks

/-! ## Toggles -/

/-- Every toggle that is on in the first is on in the second. -/
structure Hook.Toggles.Within (t u : Hook.Toggles) : Prop where
  contract : t.contract = true → u.contract = true
  contractRead : t.contractRead = true → u.contractRead = true
  functionRead : t.functionRead = true → u.functionRead = true
  contractWrite : t.contractWrite = true → u.contractWrite = true
  functionWrite : t.functionWrite = true → u.functionWrite = true
  prepareContractWrite : t.prepareContractWrite = true → u.prepareContractWrite = true
  prepareFunctionWrite : t.prepareFunctionWrite = true → u.prepareFunctionWrite = true
  contractEvent : t.contractEvent = true → u.contractEvent = true
  itemEvent : t.itemEvent = true → u.itemEvent = true

theorem Hook.Toggles.Within.enables {t u : Hook.Toggles} (h : t.Within u) (kind : Hook.Kind)
    (ht : t.enables kind = true) : u.enables kind = true := by
  cases kind with
  | contract => exact h.contract ht
  | contractRead => exact h.contractRead ht
  | contractWrite => exact h.contractWrite ht
  | prepareContractWrite => exact h.prepareContractWrite ht
  | contractEvent => exact h.contractEvent ht
  | functionRead name => exact h.functionRead ht
  | functionWrite name => exact h.functionWrite ht
  | prepareFunctionWrite name => exact h.prepareFunctionWrite ht
  | itemEvent name => exact h.itemEvent ht

/-- The hooks that fewer toggles want are those that more want, without the rest. -/
theorem plan_of_within {t u : Hook.Toggles} (h : t.Within u) (abi : List Abi.Item) :
    plan t abi = (plan u abi).filter fun hook => t.enables hook.kind := by
  unfold plan
  rw [List.filter_filter]
  apply List.filter_congr
  intro hook _
  cases ht : t.enables hook.kind with
  | false => rfl
  | true => simp [h.enables hook.kind ht]

/-! ## Hooks of a run -/

/-- The hooks of a contract, each as its kind and its fragment, none if it is not resolved. -/
def kindedFragments (toggles : Hook.Toggles) (c : Contract) :
    List (Hook.Kind × Hook.Fragment) :=
  match c.target with
  | .ok target => (plan toggles c.abi).map fun h =>
      (h.kind, h.fragment (h.kind.hookName c.name) target)
  | .error _ => []

theorem map_snd_kindedFragments (toggles : Hook.Toggles) (contracts : List Contract) :
    (contracts.flatMap (kindedFragments toggles)).map Prod.snd =
      contracts.flatMap (fragmentsOf toggles) := by
  rw [List.map_flatMap]
  apply List.flatMap_congr
  intro c _
  unfold kindedFragments fragmentsOf emittedOf
  cases c.target with
  | ok target =>
    rw [List.map_map]
    rfl
  | error e => rfl

/-- A hook is named after its kind. -/
theorem name_of_mem_kindedFragments {toggles : Hook.Toggles} {c : Contract}
    {h : Hook.Kind × Hook.Fragment} (hh : h ∈ kindedFragments toggles c) :
    h.2.name = h.1.hookName c.name := by
  unfold kindedFragments at hh
  split at hh
  · obtain ⟨hook, -, rfl⟩ := List.mem_map.1 hh
    rfl
  · cases hh

theorem kindedFragments_of_within {t u : Hook.Toggles} (h : t.Within u)
    (contracts : List Contract) :
    contracts.flatMap (kindedFragments t) =
      (contracts.flatMap (kindedFragments u)).filter fun f => t.enables f.1 := by
  rw [List.filter_flatMap]
  apply List.flatMap_congr
  intro c _
  unfold kindedFragments
  cases c.target with
  | ok target =>
    rw [plan_of_within h, List.filter_map]
    rfl
  | error e => rfl

/-- Fewer toggles plan fewer names, in the same order. -/
theorem plannedNames_sublist {t u : Hook.Toggles} (h : t.Within u) {contracts : List Contract}
    (hres : ∀ c ∈ contracts, ∃ target, c.target = .ok target) :
    (contracts.flatMap (plannedNames t)).Sublist (contracts.flatMap (plannedNames u)) := by
  rw [← map_name_fragmentsOf hres, ← map_name_fragmentsOf hres, ← map_snd_kindedFragments,
    ← map_snd_kindedFragments, kindedFragments_of_within h]
  exact (List.filter_sublist.map _).map _

/-- A run that wants fewer kinds succeeds where one that wants more does. -/
theorem generate_of_within {t u : Hook.Toggles} (h : t.Within u) {dialect : Dialect}
    {contracts : List Contract} {o : Output} (ho : generate u dialect contracts = .ok o) :
    generate t dialect contracts =
      .ok (Output.ofFragments dialect (contracts.flatMap (fragmentsOf t))) := by
  obtain ⟨hres, hnodup, -⟩ := generate_eq_ok_iff.1 ho
  exact generate_eq_ok_iff.2 ⟨hres, hnodup.sublist (plannedNames_sublist h hres), rfl⟩

/-- Fewer hooks need fewer symbols. -/
theorem neededSymbols_of_within {t u : Hook.Toggles} (h : t.Within u)
    (contracts : List Contract) : neededSymbols t contracts ⊆ neededSymbols u contracts := by
  have hfragments : contracts.flatMap (fragmentsOf t) ⊆ contracts.flatMap (fragmentsOf u) := by
    rw [← map_snd_kindedFragments, ← map_snd_kindedFragments, kindedFragments_of_within h]
    exact (List.filter_sublist.map _).subset
  intro s hs
  obtain ⟨f, hf, hs⟩ := List.mem_flatMap.1 hs
  exact List.mem_flatMap.2 ⟨f, hfragments hf, hs⟩

/-- A run that meets contradictory metadata has a contract that is not resolved. -/
theorem exists_unresolved {toggles : Hook.Toggles} {dialect : Dialect}
    {contracts : List Contract} {name : String} {fault : MetadataFault}
    (h : generate toggles dialect contracts = .error (.metadata name fault)) :
    ∃ c ∈ contracts, ∀ target, c.target ≠ .ok target := by
  rw [generate_eq] at h
  cases hf : firstFault? [] (stepsOf (plannedNames toggles) contracts) with
  | none =>
    rw [hf] at h
    cases h
  | some e =>
    rw [hf] at h
    cases h
    obtain ⟨before, s, after, hsteps, -, hfails⟩ := firstFailure_iff.2 hf
    cases hfails with
    | @unresolved c _ hc =>
      refine ⟨c, mem_stepsOf.1 (hsteps ▸ List.mem_append_right _ List.mem_cons_self), ?_⟩
      intro target ht
      rw [hc] at ht
      cases ht

/-! ## The law -/

/-- Where a run succeeds, so does the run with fewer toggles on. The hooks that it writes are those
of the first whose kinds are still wanted, in the same order and in the same words, and it imports
nothing else than the first. A run that fails for the metadata of a contract fails with every choice
of toggles. -/
theorem fewer_toggles_only_remove (dialect : Dialect) (contracts : List Contract) :
    (∀ t u : Hook.Toggles, t.Within u → ∀ more, generate u dialect contracts = .ok more →
      ∃ less, generate t dialect contracts = .ok less ∧
        let hooks := contracts.flatMap (kindedFragments u)
        let kept := hooks.filter fun h => t.enables h.1
        more.hooks = hooks.map (fun h => h.2.name) ∧
        more.content = String.intercalate "\n\n" (hooks.map fun h => h.2.text dialect) ∧
        (∀ h ∈ hooks, ∃ c ∈ contracts, h.2.name = h.1.hookName c.name) ∧
        less.hooks = kept.map (fun h => h.2.name) ∧
        less.content = String.intercalate "\n\n" (kept.map fun h => h.2.text dialect) ∧
        Imports.listed less.imports ⊆ Imports.listed more.imports) ∧
    ∀ (t : Hook.Toggles) name fault,
      generate t dialect contracts = .error (.metadata name fault) →
      ∀ u : Hook.Toggles, ∃ e, generate u dialect contracts = .error e := by
  refine ⟨fun t u h more hmore => ?_, fun t name fault hfault u => ?_⟩
  · have hless := generate_of_within h hmore
    refine ⟨_, hless, ?_⟩
    have himports : Imports.listed
        (Output.ofFragments dialect (contracts.flatMap (fragmentsOf t))).imports ⊆
        Imports.listed more.imports := by
      intro p hp
      obtain ⟨s, hs, hkept, hpair⟩ := (mem_listed hless).1 hp
      exact (mem_listed hmore).2 ⟨s, neededSymbols_of_within h contracts hs, hkept, hpair⟩
    obtain ⟨-, -, rfl⟩ := generate_eq_ok_iff.1 hmore
    refine ⟨?_, ?_, ?_, ?_, ?_, himports⟩
    · rw [← map_snd_kindedFragments]
      exact List.map_map
    · rw [← map_snd_kindedFragments]
      exact congrArg (String.intercalate "\n\n") List.map_map
    · intro f hf
      obtain ⟨c, hc, hf⟩ := List.mem_flatMap.1 hf
      exact ⟨c, hc, name_of_mem_kindedFragments hf⟩
    · rw [← map_snd_kindedFragments, kindedFragments_of_within h]
      exact List.map_map
    · rw [← map_snd_kindedFragments, kindedFragments_of_within h]
      exact congrArg (String.intercalate "\n\n") List.map_map
  · obtain ⟨c, hc, hunresolved⟩ := exists_unresolved hfault
    cases hu : generate u dialect contracts with
    | error e => exact ⟨e, rfl⟩
    | ok o =>
      obtain ⟨target, ht⟩ := (generate_eq_ok_iff.1 hu).1 c hc
      exact absurd ht (hunresolved target)

/-- A contract with one function that reads and one that writes, under the usual names. -/
def countingContract (name : String) : Contract :=
  ⟨name, [.function ⟨"total", [], [], .view⟩, .function ⟨"add", [], [], .payable⟩], none,
    .standard name false⟩

/-- Of the hooks of a counter those for its functions are left when the general ones are off. -/
theorem the_function_hooks_of_a_counter_are_left :
    ∃ o, generate ⟨false, false, true, false, true, false, false, false, false⟩ .javascript
        [countingContract "Counter"] = .ok o ∧
      o.hooks = ["useCounterTotal", "useCounterAdd"] := by
  have hmore : ∃ more, generate {} .javascript [countingContract "Counter"] = .ok more := ⟨_, rfl⟩
  obtain ⟨more, hmore⟩ := hmore
  have hwithin : Hook.Toggles.Within ⟨false, false, true, false, true, false, false, false, false⟩
      {} := by
    constructor <;> exact fun _ => rfl
  obtain ⟨less, hless, -, -, -, hhooks, -⟩ :=
    (fewer_toggles_only_remove .javascript [countingContract "Counter"]).1 _ _ hwithin more hmore
  refine ⟨less, hless, ?_⟩
  rw [hhooks]
  decide

end ContractHooks
