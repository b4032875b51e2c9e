-- What a run that succeeds gives: the fragments of its contracts, each with symbols of the
-- libraries, and an import section that lists the requested ones.
import ContractHooks.Proofs.Hook.ImportText
import ContractHooks.Proofs.Module.Plan

namespace ContractHooks

/-! ## Runs -/

theorem generate_eq_ok_iff {toggles : Hook.Toggles} {dialect : Dialect}
    {contracts : List Contract} {o : Output} :
    generate toggles dialect contracts = .ok o ↔
      (∀ c ∈ contracts, ∃ target, c.target = .ok target) ∧
        (contracts.flatMap (plannedNames toggles)).Nodup ∧
        o = Output.ofFragments dialect (contracts.flatMap (fragmentsOf toggles)) := by
  rw [generate_eq, ← and_assoc, ← firstFault?_stepsOf_eq_none_iff]
  cases firstFault? [] (stepsOf (plannedNames toggles) contracts) with
  | none => simp [eq_comm]
  | some e => simp

/-- A fragment of a contract is that of one of its hooks, for its target. -/
theorem mem_fragmentsOf {toggles : Hook.Toggles} {c : Contract} {f : Hook.Fragment} :
    f ∈ fragmentsOf toggles c ↔
      ∃ target, c.target = .ok target ∧
        ∃ h ∈ plan toggles c.abi, f = h.fragment (h.kind.hookName c.name) target := by
  unfold fragmentsOf emittedOf
  cases c.target with
  | ok target => simp [eq_comm]
  | error e => simp

/-! ## Symbols -/

theorem layoutSymbols_subset (l : Hook.Layout) : Hook.layoutSymbols l ⊆ Symbol.all := by
  cases l <;> decide

theorem chainSymbols_subset (target : Target) : Hook.chainSymbols target ⊆ Symbol.all := by
  cases target with
  | abi abiName => exact List.nil_subset _
  | address abiName addressName => exact List.nil_subset _
  | deployments configName =>
    show [Symbol.useNetwork] ⊆ Symbol.all
    decide

theorem symbols_fragment_subset (hook : Hook) (name : String) (target : Target) :
    (hook.fragment name target).symbols ⊆ Symbol.all :=
  List.append_subset.2 ⟨layoutSymbols_subset _, chainSymbols_subset _⟩

/-- The symbols that the hooks of contracts need, in order. -/
def neededSymbols (toggles : Hook.Toggles) (contracts : List Contract) : List Symbol :=
  (contracts.flatMap (fragmentsOf toggles)).flatMap Hook.Fragment.symbols

theorem neededSymbols_subset (toggles : Hook.Toggles) (contracts : List Contract) :
    neededSymbols toggles contracts ⊆ Symbol.all := by
  intro s hs
  obtain ⟨f, hf, hs⟩ := List.mem_flatMap.1 hs
  obtain ⟨c, -, hf⟩ := List.mem_flatMap.1 hf
  obtain ⟨target, -, h, -, rfl⟩ := mem_fragmentsOf.1 hf
  exact symbols_fragment_subset h _ target hs

theorem mem_neededSymbols {toggles : Hook.Toggles} {contracts : List Contract} {s : Symbol} :
    s ∈ neededSymbols toggles contracts ↔
      ∃ c ∈ contracts, ∃ target, c.target = .ok target ∧
        ∃ hook ∈ plan toggles c.abi,
          s ∈ Hook.layoutSymbols hook.layout ∨ s ∈ Hook.chainSymbols target := by
  unfold neededSymbols
  rw [List.mem_flatMap]
  constructor
  · rintro ⟨f, hf, hs⟩
    obtain ⟨c, hc, hf⟩ := List.mem_flatMap.1 hf
    obtain ⟨target, ht, hook, hhook, rfl⟩ := mem_fragmentsOf.1 hf
    exact ⟨c, hc, target, ht, hook, hhook, List.mem_append.1 hs⟩
  · rintro ⟨c, hc, target, ht, hook, hhook, hs⟩
    refine ⟨hook.fragment (hook.kind.hookName c.name) target, ?_, List.mem_append.2 hs⟩
    exact List.mem_flatMap.2 ⟨c, hc, mem_fragmentsOf.2 ⟨target, ht, hook, hhook, rfl⟩⟩

theorem isPlain_of_mem_all {s : Symbol} (h : s ∈ Symbol.all) :
    Imports.IsPlain s.library ∧ Imports.IsPlain s.name := by
  revert s
  decide

/-- The imports of a run are those that its hooks need. -/
theorem importsOf_symbols {toggles : Hook.Toggles} {dialect : Dialect}
    (contracts : List Contract) :
    Output.importsOf dialect
        ((contracts.flatMap (fragmentsOf toggles)).map Hook.Fragment.symbols) =
      Imports.ofRequests dialect.annotated (neededSymbols toggles contracts) := by
  unfold Output.importsOf
  rw [List.foldl_map]
  exact congrArg Imports.Gathering.imports (List.foldl_flatMap ..).symm

/-- The import section of a run lists the pairs of the symbols that its hooks need, gathered by
library. -/
theorem listed_imports {toggles : Hook.Toggles} {dialect : Dialect} {contracts : List Contract}
    {o : Output} (h : generate toggles dialect contracts = .ok o) :
    Imports.listed o.imports =
      Imports.pairs ⟨Imports.gathered
        (Imports.requested dialect.annotated (neededSymbols toggles contracts))⟩ := by
  obtain ⟨-, -, rfl⟩ := generate_eq_ok_iff.1 h
  show Imports.listed (Output.importsOf dialect _).text = _
  rw [importsOf_symbols]
  exact Imports.listed_ofRequests _ fun s hs =>
    isPlain_of_mem_all (neededSymbols_subset toggles contracts hs)

theorem mem_listed {toggles : Hook.Toggles} {dialect : Dialect} {contracts : List Contract}
    {o : Output} (h : generate toggles dialect contracts = .ok o) {p : String × String} :
    p ∈ Imports.listed o.imports ↔
      ∃ s ∈ neededSymbols toggles contracts, s.isKept dialect.annotated = true ∧ s.pair = p := by
  rw [listed_imports h, Imports.mem_pairs_gathered, Imports.requested, List.mem_eraseDups,
    List.mem_map]
  simp only [List.mem_filter, and_assoc]

/-- No pair is imported twice. -/
theorem nodup_listed {toggles : Hook.Toggles} {dialect : Dialect} {contracts : List Contract}
    {o : Output} (h : generate toggles dialect contracts = .ok o) :
    (Imports.listed o.imports).Nodup := by
  rw [listed_imports h]
  exact Imports.nodup_pairs_gathered (nodup_eraseDups _)

end ContractHooks
