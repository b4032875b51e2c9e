-- The names that a generated module binds: those of its hooks and those it imports. The names
-- of hooks are told apart by the registry of the run, which does not know the imported ones.
-- A hook whose name comes out as that of an imported function is bound twice.
import ContractHooks.Proofs.Module.Output

namespace ContractHooks

/-! ## What is called -/

/-- Some hook of the run calls the function of a name: the one that it wraps, or the one that
looks up the chain if its contract is deployed on several. -/
def Called (toggles : Hook.Toggles) (contracts : List Contract) (name : String) : Prop :=
  ∃ c ∈ contracts, ∃ hook ∈ plan toggles c.abi,
    name = hook.layout.primitive ∨
      name = Symbol.useNetwork.name ∧ ∃ config, c.target = .ok (.deployments config)

/-- The one value among the symbols of a layout is the hook that is wrapped. -/
theorem mem_layoutSymbols_of_value {l : Hook.Layout} {s : Symbol}
    (h : s ∈ Hook.layoutSymbols l) (hvalue : s.typeOnly = false) : s.name = l.primitive := by
  revert s
  cases l <;> decide

theorem hook_mem_layoutSymbols (l : Hook.Layout) :
    Symbol.hook l.primitive ∈ Hook.layoutSymbols l := by
  cases l <;> decide

theorem mem_chainSymbols {target : Target} {s : Symbol} :
    s ∈ Hook.chainSymbols target ↔
      s = Symbol.useNetwork ∧ ∃ config, target = .deployments config := by
  cases target <;> simp [Hook.chainSymbols]

/-- The functions that are called are the values that the run needs. -/
theorem called_iff {toggles : Hook.Toggles} {contracts : List Contract}
    (h : ∀ c ∈ contracts, ∃ target, c.target = .ok target) {name : String} :
    Called toggles contracts name ↔
      ∃ s ∈ neededSymbols toggles contracts, s.typeOnly = false ∧ s.name = name := by
  constructor
  · rintro ⟨c, hc, hook, hhook, hname⟩
    obtain ⟨target, ht⟩ := h c hc
    rcases hname with rfl | ⟨rfl, config, hconfig⟩
    · refine ⟨Symbol.hook hook.layout.primitive, ?_, rfl, rfl⟩
      exact mem_neededSymbols.2
        ⟨c, hc, target, ht, hook, hhook, .inl (hook_mem_layoutSymbols hook.layout)⟩
    · refine ⟨Symbol.useNetwork, ?_, rfl, rfl⟩
      exact mem_neededSymbols.2
        ⟨c, hc, _, hconfig, hook, hhook, .inr (mem_chainSymbols.2 ⟨rfl, config, rfl⟩)⟩
  · rintro ⟨s, hs, hvalue, rfl⟩
    obtain ⟨c, hc, target, ht, hook, hhook, hs⟩ := mem_neededSymbols.1 hs
    refine ⟨c, hc, hook, hhook, ?_⟩
    rcases hs with hs | hs
    · exact .inl (mem_layoutSymbols_of_value hs hvalue)
    · obtain ⟨rfl, config, rfl⟩ := mem_chainSymbols.1 hs
      exact .inr ⟨rfl, config, ht⟩

/-! ## What is declared -/

/-- The name of a hook starts with a small letter. -/
theorem head?_hookName (contract : String) (kind : Hook.Kind) :
    (kind.hookName contract).toList.head? = some 'u' := by
  cases kind <;> simp [Hook.Kind.hookName]

theorem head?_of_mem_hooks {toggles : Hook.Toggles} {dialect : Dialect}
    {contracts : List Contract} {o : Output} (h : generate toggles dialect contracts = .ok o)
    {name : String} (hname : name ∈ o.hooks) : name.toList.head? = some 'u' := by
  obtain ⟨-, -, rfl⟩ := generate_eq_ok_iff.1 h
  obtain ⟨f, hf, rfl⟩ := List.mem_map.1 hname
  obtain ⟨c, -, hf⟩ := List.mem_flatMap.1 hf
  obtain ⟨target, -, hook, -, rfl⟩ := mem_fragmentsOf.1 hf
  exact head?_hookName c.name hook.kind

/-- The name of a type starts with a capital. -/
theorem value_of_head? {s : Symbol} (h : s ∈ Symbol.all) (hhead : s.name.toList.head? = some 'u') :
    s.typeOnly = false := by
  revert s
  decide

/-! ## What is bound twice -/

/-- In a module the hooks have the planned names, no two of them the same, and a name of a hook
is also imported just where some hook of the run calls the imported function of that name. -/
theorem a_hook_is_imported_just_where_it_is_called {toggles : Hook.Toggles} {dialect : Dialect}
    {contracts : List Contract} {o : Output} (h : generate toggles dialect contracts = .ok o) :
    o.hooks = contracts.flatMap (plannedNames toggles) ∧ o.hooks.Nodup ∧
      ∀ name ∈ o.hooks,
        name ∈ (Imports.listed o.imports).map Prod.snd ↔ Called toggles contracts name := by
  obtain ⟨hres, hnodup, ho⟩ := generate_eq_ok_iff.1 h
  have hhooks : o.hooks = contracts.flatMap (plannedNames toggles) := by
    rw [ho]
    exact map_name_fragmentsOf hres
  refine ⟨hhooks, hhooks ▸ hnodup, fun name hname => ?_⟩
  rw [called_iff hres, List.mem_map]
  constructor
  · rintro ⟨p, hp, rfl⟩
    obtain ⟨s, hs, -, rfl⟩ := (mem_listed h).1 hp
    have hall := neededSymbols_subset toggles contracts hs
    exact ⟨s, hs, value_of_head? hall (head?_of_mem_hooks h hname), rfl⟩
  · rintro ⟨s, hs, hvalue, rfl⟩
    have hkept : s.isKept dialect.annotated = true := by
      simp [Symbol.isKept, hvalue]
    exact ⟨s.pair, (mem_listed h).2 ⟨s, hs, hkept, rfl⟩, rfl⟩

/-- A contract without functions and events, under the usual names. -/
def loneContract (name : String) : Contract := ⟨name, [], none, .standard name false⟩

theorem the_hook_of_a_vault_is_not_imported :
    ∃ o, generate {} .javascript [loneContract "Vault"] = .ok o ∧ "useVault" ∈ o.hooks ∧
      "useVault" ∉ (Imports.listed o.imports).map Prod.snd := by
  have hok : ∃ o, generate {} .javascript [loneContract "Vault"] = .ok o ∧
      o.hooks = ["useVault"] := ⟨_, rfl, by decide⟩
  obtain ⟨o, ho, hhooks⟩ := hok
  have hmem : "useVault" ∈ o.hooks := by
    rw [hhooks]
    exact List.mem_singleton_self _
  refine ⟨o, ho, hmem, fun himported => ?_⟩
  obtain ⟨c, hc, hook, hhook, hname⟩ :=
    ((a_hook_is_imported_just_where_it_is_called ho).2.2 _ hmem).1 himported
  obtain rfl := List.mem_singleton.1 hc
  have hplan : plan {} (loneContract "Vault").abi = [.contract] := rfl
  rw [hplan, List.mem_singleton] at hhook
  subst hhook
  rcases hname with hname | ⟨hname, -⟩
  · exact absurd hname (by decide)
  · exact absurd hname (by decide)

/-- The hook of a contract that is called `Contract` has the name of the hook that it wraps, so
that the module both imports and declares it. -/
theorem the_hook_of_a_contract_named_contract_is_imported :
    ∃ o, generate {} .javascript [loneContract "Contract"] = .ok o ∧
      "useContract" ∈ o.hooks ∧ "useContract" ∈ (Imports.listed o.imports).map Prod.snd := by
  refine ⟨_, rfl, ?_, ?_⟩
  · decide
  · decide

end ContractHooks
