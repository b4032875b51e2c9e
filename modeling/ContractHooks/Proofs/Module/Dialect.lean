-- The two dialects of one run. They fail alike, and where they succeed they give the same hooks:
-- the JavaScript text of a hook is its TypeScript text with exactly the annotations left out, and
-- of the imports those are left that name values.
import ContractHooks.Proofs.Hook.Erasure
import ContractHooks.Proofs.Module.Output

namespace ContractHooks

/-! ## Hooks -/

/-- A hook with the name that it claims and the target of its contract. -/
structure Placed where
  hook : Hook
  name : String
  target : Target

namespace Placed

/-- The hook with all its annotations. -/
def typed (p : Placed) : String :=
  p.hook.sourceText p.name p.target (p.hook.annotations p.target)

/-- The hook without annotations. -/
def untyped (p : Placed) : String := p.hook.sourceText p.name p.target .none

end Placed

/-- The hooks of contracts in order, with their names and targets. -/
def placedHooks (toggles : Hook.Toggles) (contracts : List Contract) : List Placed :=
  contracts.flatMap (emittedOf Placed.mk toggles)

/-! ## Imports -/

/-- Whether a pair of a library and a name is that of a value, not only of a type. -/
def isValue (p : String × String) : Bool := Symbol.all.any fun s => s.pair == p && !s.typeOnly

/-- No type goes by the name of a value. -/
theorem isValue_pair {s : Symbol} (h : s ∈ Symbol.all) : isValue s.pair = s.isKept false := by
  revert s
  decide

theorem library_of_isValue {p : String × String} (h : isValue p = true) :
    p.1 = Symbol.hookLibrary := by
  obtain ⟨s, hs, hp⟩ := List.any_eq_true.1 h
  rw [Bool.and_eq_true, beq_iff_eq, Bool.not_eq_true'] at hp
  obtain ⟨rfl, hvalue⟩ := hp
  have hall : ∀ s ∈ Symbol.all, s.typeOnly = false → s.pair.1 = Symbol.hookLibrary := by decide
  exact hall s hs hvalue

/-- Without annotations the values are left of what is requested with them. -/
theorem requested_false {symbols : List Symbol} (h : symbols ⊆ Symbol.all) :
    Imports.requested false symbols = (Imports.requested true symbols).filter isValue := by
  have hkept : ∀ s ∈ symbols, Symbol.isKept true s = true := fun s _ => by
    simp [Symbol.isKept]
  unfold Imports.requested
  rw [← eraseDups_filter, List.filter_map, List.filter_eq_self.2 hkept]
  congr 2
  exact List.filter_congr fun s hs => (isValue_pair (h hs)).symm

/-- All values come from one library, so that they keep their order among the other imports. -/
theorem pairs_requested_false {symbols : List Symbol} (h : symbols ⊆ Symbol.all) :
    Imports.pairs ⟨Imports.gathered (Imports.requested false symbols)⟩ =
      (Imports.pairs ⟨Imports.gathered (Imports.requested true symbols)⟩).filter isValue := by
  have hvalues : ∀ p ∈ Imports.requested false symbols, isValue p = true := by
    intro p hp
    rw [requested_false h] at hp
    exact (List.mem_filter.1 hp).2
  -- Both sides are filtered, so that each keeps the order in which its pairs were requested.
  have hself : (Imports.pairs ⟨Imports.gathered (Imports.requested false symbols)⟩).filter isValue =
      Imports.pairs ⟨Imports.gathered (Imports.requested false symbols)⟩ :=
    List.filter_eq_self.2 fun p hp => hvalues p (Imports.mem_pairs_gathered.1 hp)
  rw [← hself, Imports.filter_pairs_gathered fun p _ hp => library_of_isValue hp,
    Imports.filter_pairs_gathered fun p _ hp => library_of_isValue hp,
    List.filter_eq_self.2 hvalues, requested_false h]

/-- Every pair that a run imports is that of a symbol. -/
theorem exists_symbol_of_mem_listed {toggles : Hook.Toggles} {dialect : Dialect}
    {contracts : List Contract} {o : Output} (h : generate toggles dialect contracts = .ok o)
    {p : String × String} (hp : p ∈ Imports.listed o.imports) : ∃ s ∈ Symbol.all, s.pair = p := by
  obtain ⟨s, hs, -, rfl⟩ := (mem_listed h).1 hp
  exact ⟨s, neededSymbols_subset toggles contracts hs, rfl⟩

/-! ## Parity -/

/-- The two dialects of a run fail with the same error, or both succeed with the same hooks. Each
hook is then written in TypeScript with all its annotations, and in JavaScript without them and
the same besides. The JavaScript imports are the TypeScript imports of values, in the same order. -/
theorem javascript_is_typescript_without_annotations (toggles : Hook.Toggles)
    (contracts : List Contract) :
    (∃ e, generate toggles .typescript contracts = .error e ∧
      generate toggles .javascript contracts = .error e) ∨
    ∃ tsHooks jsHooks ts js,
      writtenHooks toggles .typescript contracts = .ok tsHooks ∧
      writtenHooks toggles .javascript contracts = .ok jsHooks ∧
      generate toggles .typescript contracts = .ok ts ∧
      generate toggles .javascript contracts = .ok js ∧
      let placed := placedHooks toggles contracts
      ts.hooks = placed.map Placed.name ∧ js.hooks = ts.hooks ∧
      jsHooks.length = tsHooks.length ∧
      tsHooks.map Hook.Written.text = placed.map Placed.typed ∧
      jsHooks.map Hook.Written.text = placed.map Placed.untyped ∧
      ts.content = String.intercalate "\n\n" (tsHooks.map Hook.Written.text) ∧
      js.content = String.intercalate "\n\n" (jsHooks.map Hook.Written.text) ∧
      (∀ p ∈ Imports.listed ts.imports, ∃ s ∈ Symbol.all, s.pair = p) ∧
      Imports.listed js.imports = (Imports.listed ts.imports).filter isValue := by
  cases hf : firstFault? [] (stepsOf (hookNames toggles) contracts) with
  | some e =>
    have herror (dialect : Dialect) : generate toggles dialect contracts = .error e := by
      rw [generate, writtenHooks_eq, hf]
      rfl
    exact .inl ⟨e, herror .typescript, herror .javascript⟩
  | none =>
    let written (dialect : Dialect) := contracts.flatMap (emittedOf (Hook.emit dialect) toggles)
    have hwritten (dialect : Dialect) :
        writtenHooks toggles dialect contracts = .ok (written dialect) := by
      rw [writtenHooks_eq, hf]
    have hmodule (dialect : Dialect) : generate toggles dialect contracts =
        .ok (.ofHooks dialect (written dialect)) := by
      rw [generate, hwritten]
      rfl
    have hnames (dialect : Dialect) : (written dialect).map Hook.Written.name =
        (placedHooks toggles contracts).map Placed.name :=
      map_emittedOf (f := Hook.Written.name) (g := Placed.name) (fun _ _ _ => rfl) toggles contracts
    have hsame : (written .javascript).map Hook.Written.name =
        (written .typescript).map Hook.Written.name :=
      (hnames .javascript).trans (hnames .typescript).symm
    have htyped : (written .typescript).map Hook.Written.text =
        (placedHooks toggles contracts).map Placed.typed :=
      map_emittedOf (f := Hook.Written.text) (g := Placed.typed)
        (fun hook name target => hook.text_eq_sourceText name target .typescript) toggles contracts
    have huntyped : (written .javascript).map Hook.Written.text =
        (placedHooks toggles contracts).map Placed.untyped :=
      map_emittedOf (f := Hook.Written.text) (g := Placed.untyped)
        (fun hook name target => hook.text_eq_sourceText name target .javascript) toggles contracts
    refine .inr ⟨written .typescript, written .javascript,
      .ofHooks .typescript (written .typescript), .ofHooks .javascript (written .javascript),
      hwritten .typescript, hwritten .javascript, hmodule .typescript, hmodule .javascript,
      hnames .typescript, hsame, ?_, htyped, huntyped, rfl, rfl, ?_, ?_⟩
    · simpa using congrArg List.length hsame
    · exact fun p hp => exists_symbol_of_mem_listed (hmodule .typescript) hp
    · rw [listed_imports (hmodule .typescript), listed_imports (hmodule .javascript)]
      exact pairs_requested_false (neededSymbols_subset toggles contracts)

end ContractHooks
