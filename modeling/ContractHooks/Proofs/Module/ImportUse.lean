-- The imports of a module against its content: what is imported stands in the content, and what
-- stands there is imported. The second holds where no text that the contracts bring along has the
-- name of a symbol in it, as such a name would stand in the content without an import.
import ContractHooks.Proofs.Hook.Fragment
import ContractHooks.Proofs.Module.Binding

namespace ContractHooks

open Text (HasWord IdentifierClass StandsIn)

variable {k : IdentifierClass} {word : String}

/-! ## Texts of a run -/

/-- The texts of a contract that its hooks can come to have: the names of its constants, the names
of its functions and events, and the types of their inputs as signatures write them. -/
def Contract.texts (c : Contract) : List String :=
  c.constants.abi :: (c.constants.address.toList ++ c.constants.config.toList)
    ++ c.abi.flatMap Abi.Item.texts

/-- The texts of a run: the names of its hooks and the texts of its contracts. -/
def runTexts (contracts : List Contract) (o : Output) : List String :=
  o.hooks ++ contracts.flatMap Contract.texts

theorem hookName_mem_hooks {toggles : Hook.Toggles} {dialect : Dialect}
    {contracts : List Contract} {o : Output} (h : generate toggles dialect contracts = .ok o)
    {c : Contract} (hc : c ∈ contracts) {target : Target} (ht : c.target = .ok target) {hook : Hook}
    (hhook : hook ∈ plan toggles c.abi) : hook.kind.hookName c.name ∈ o.hooks := by
  have hfragment : hook.fragment (hook.kind.hookName c.name) target ∈ fragmentsOf toggles c :=
    mem_fragmentsOf.2 ⟨target, ht, hook, hhook, rfl⟩
  rw [(generate_eq_ok_iff.1 h).2.2]
  exact List.mem_map_of_mem (List.mem_flatMap.2 ⟨c, hc, hfragment⟩)

/-- A text that a fragment of a run brings along has no words of symbols but those of the run's
texts. -/
theorem of_hasWord_broughtTexts (hword : word ∈ Symbol.names) {toggles : Hook.Toggles}
    {dialect : Dialect} {contracts : List Contract} {o : Output}
    (h : generate toggles dialect contracts = .ok o) {c : Contract} (hc : c ∈ contracts)
    {target : Target} (ht : c.target = .ok target) {hook : Hook}
    (hhook : hook ∈ plan toggles c.abi) {u : String}
    (hu : u ∈ Hook.broughtTexts hook (hook.kind.hookName c.name) target) (hhas : HasWord k u word) :
    ∃ t ∈ runTexts contracts o, HasWord k t word := by
  rcases List.mem_cons.1 hu with rfl | hu
  · exact ⟨_, List.mem_append_left _ (hookName_mem_hooks h hc ht hhook), hhas⟩
  · obtain ⟨t, hmem, hhas⟩ :=
      Hook.of_givenTexts (Hook.traceable_hasWord hword) (Hook.mem_all_of_mem_plan hhook) hu hhas
    have htext : t ∈ c.texts := by
      rcases List.mem_append.1 hmem with hmem | hmem
      · exact List.mem_append_left _ (targetNames_subset_constantNames ht hmem)
      · exact List.mem_append_right _ hmem
    exact ⟨t, List.mem_append_right _ (List.mem_flatMap.2 ⟨c, hc, htext⟩), hhas⟩

/-! ## Imports and content -/

theorem name_mem_names {s : Symbol} (h : s ∈ Symbol.all) : s.name ∈ Symbol.names :=
  List.mem_map_of_mem h

theorem hasWord_content (hword : word ∈ Symbol.names) (dialect : Dialect)
    (fragments : List Hook.Fragment) :
    HasWord k (Output.ofFragments dialect fragments).content word ↔
      ∃ f ∈ fragments, HasWord k (f.text dialect) word := by
  have hthrough : Text.Through [["", "\n\n", ""]] fun text => HasWord k text word :=
    Text.through_hasWord hword (by decide)
  unfold Output.ofFragments
  rw [hthrough.intercalate List.mem_cons_self]
  simp

/-- What is imported stands in the content. -/
theorem hasWord_of_mem_listed {toggles : Hook.Toggles} {dialect : Dialect}
    {contracts : List Contract} {o : Output} (h : generate toggles dialect contracts = .ok o)
    {p : String × String} (hp : p ∈ Imports.listed o.imports) : HasWord k o.content p.2 := by
  obtain ⟨s, hs, hkept, rfl⟩ := (mem_listed h).1 hp
  have hall := neededSymbols_subset toggles contracts hs
  have hword := name_mem_names hall
  obtain ⟨f, hf, hs⟩ := List.mem_flatMap.1 hs
  obtain ⟨c, hc, hfragment⟩ := List.mem_flatMap.1 hf
  obtain ⟨target, -, hook, -, rfl⟩ := mem_fragmentsOf.1 hfragment
  obtain ⟨-, -, rfl⟩ := generate_eq_ok_iff.1 h
  refine (hasWord_content hword dialect _).2 ⟨_, hf, ?_⟩
  refine (Hook.adds_fragment hook _ target dialect).has s.name hword ?_
  exact List.mem_map_of_mem (List.mem_filter.2 ⟨hs, hkept⟩)

/-- The name of a symbol tells its library. -/
theorem eq_of_name {s t : Symbol} (hs : s ∈ Symbol.all) (ht : t ∈ Symbol.all)
    (h : s.name = t.name) : s = t := by
  have hall : ∀ s ∈ Symbol.all, ∀ t ∈ Symbol.all, s.name = t.name → s = t := by decide
  exact hall s hs t ht h

/-- A symbol is imported where the run needs it and the dialect keeps it. -/
theorem name_mem_listed_iff {toggles : Hook.Toggles} {dialect : Dialect}
    {contracts : List Contract} {o : Output} (h : generate toggles dialect contracts = .ok o)
    {s : Symbol} (hs : s ∈ Symbol.all) :
    s.name ∈ (Imports.listed o.imports).map Prod.snd ↔
      s ∈ neededSymbols toggles contracts ∧ s.isKept dialect.annotated = true := by
  constructor
  · intro hname
    obtain ⟨p, hp, heq⟩ := List.mem_map.1 hname
    obtain ⟨t, ht, hkept, rfl⟩ := (mem_listed h).1 hp
    obtain rfl := eq_of_name (neededSymbols_subset toggles contracts ht) hs heq
    exact ⟨ht, hkept⟩
  · rintro ⟨hneeded, hkept⟩
    exact List.mem_map_of_mem ((mem_listed h).2 ⟨s, hneeded, hkept, rfl⟩)

/-- A name of a symbol that stands in the content is imported, or it stands in a text of the
run. -/
theorem mem_listed_of_hasWord (hword : word ∈ Symbol.names) {toggles : Hook.Toggles}
    {dialect : Dialect} {contracts : List Contract} {o : Output}
    (h : generate toggles dialect contracts = .ok o) (hhas : HasWord k o.content word) :
    word ∈ (Imports.listed o.imports).map Prod.snd ∨
      ∃ t ∈ runTexts contracts o, HasWord k t word := by
  have hcontent := (generate_eq_ok_iff.1 h).2.2
  rw [hcontent, hasWord_content hword] at hhas
  obtain ⟨f, hf, hhas⟩ := hhas
  obtain ⟨c, hc, hfragment⟩ := List.mem_flatMap.1 hf
  obtain ⟨target, ht, hook, hhook, rfl⟩ := mem_fragmentsOf.1 hfragment
  rcases (Hook.adds_fragment hook _ target dialect).only word hword hhas with hmem | ⟨u, hu, hhas⟩
  · obtain ⟨s, hs, rfl⟩ := List.mem_map.1 hmem
    obtain ⟨hs, hkept⟩ := List.mem_filter.1 hs
    have hneeded : s ∈ neededSymbols toggles contracts := List.mem_flatMap.2 ⟨_, hf, hs⟩
    have hall := neededSymbols_subset toggles contracts hneeded
    exact .inl ((name_mem_listed_iff h hall).2 ⟨hneeded, hkept⟩)
  · exact .inr (of_hasWord_broughtTexts hword h hc ht hhook hu hhas)

/-- A symbol whose name is imported is imported once, from its own library. -/
theorem filter_listed {toggles : Hook.Toggles} {dialect : Dialect} {contracts : List Contract}
    {o : Output} (h : generate toggles dialect contracts = .ok o) {s : Symbol}
    (hs : s ∈ Symbol.all) (hname : s.name ∈ (Imports.listed o.imports).map Prod.snd) :
    ((Imports.listed o.imports).filter fun p => p.2 == s.name) = [s.pair] := by
  have hpair : ∀ p ∈ Imports.listed o.imports, p.2 = s.name → p = s.pair := by
    intro p hp heq
    obtain ⟨t, ht, -, rfl⟩ := (mem_listed h).1 hp
    rw [eq_of_name (neededSymbols_subset toggles contracts ht) hs heq]
  obtain ⟨hneeded, hkept⟩ := (name_mem_listed_iff h hs).1 hname
  have hmem : s.pair ∈ Imports.listed o.imports := (mem_listed h).2 ⟨s, hneeded, hkept, rfl⟩
  have hfilter : ((Imports.listed o.imports).filter fun p => p.2 == s.name) =
      (Imports.listed o.imports).filter (· == s.pair) := by
    refine List.filter_congr fun p hp => ?_
    rw [Bool.eq_iff_iff, beq_iff_eq, beq_iff_eq]
    constructor
    · exact hpair p hp
    · rintro rfl
      rfl
  rw [hfilter, List.filter_beq, List.count_eq_one_of_mem (nodup_listed h) hmem]
  rfl

theorem standsIn_iff {s : Symbol} (h : s ∈ Symbol.all) (text : String) :
    StandsIn k.holds s.name.toList text.toList ↔ HasWord k text s.name := by
  have hall : ∀ s ∈ Symbol.all, Text.isWord s.name = true := by decide
  exact (Text.hasWord_iff (hall s h) text).symm

/-- Every name that a module imports stands in its content. Where no text of the run has the name
of a symbol in it, a symbol is imported just where its name stands in the content, and then once
and from its own library. -/
theorem a_module_imports_the_symbols_of_its_content (k : IdentifierClass) {toggles : Hook.Toggles}
    {dialect : Dialect} {contracts : List Contract} {o : Output}
    (h : generate toggles dialect contracts = .ok o) :
    (∀ p ∈ Imports.listed o.imports, StandsIn k.holds p.2.toList o.content.toList) ∧
    ((∀ t ∈ runTexts contracts o, ∀ s ∈ Symbol.all,
        ¬ StandsIn k.holds s.name.toList t.toList) →
      ∀ s ∈ Symbol.all,
        (s.name ∈ (Imports.listed o.imports).map Prod.snd ↔
          StandsIn k.holds s.name.toList o.content.toList) ∧
        (((Imports.listed o.imports).filter fun p => p.2 == s.name) = [s.pair] ↔
          StandsIn k.holds s.name.toList o.content.toList)) := by
  have hstands : ∀ p ∈ Imports.listed o.imports,
      StandsIn k.holds p.2.toList o.content.toList := by
    intro p hp
    obtain ⟨s, hs, -, rfl⟩ := (mem_listed h).1 hp
    exact (standsIn_iff (neededSymbols_subset toggles contracts hs) _).2
      (hasWord_of_mem_listed h hp)
  refine ⟨hstands, fun hfree s hs => ?_⟩
  have himported : s.name ∈ (Imports.listed o.imports).map Prod.snd ↔
      StandsIn k.holds s.name.toList o.content.toList := by
    constructor
    · rintro hname
      obtain ⟨p, hp, heq⟩ := List.mem_map.1 hname
      exact heq ▸ hstands p hp
    · intro hcontent
      have hhas := (standsIn_iff hs _).1 hcontent
      rcases mem_listed_of_hasWord (name_mem_names hs) h hhas with hname | ⟨t, ht, hhas⟩
      · exact hname
      · exact absurd ((standsIn_iff hs t).2 hhas) (hfree t ht s hs)
  refine ⟨himported, ?_⟩
  rw [← himported]
  constructor
  · intro hfilter
    have hmem : s.pair ∈ (Imports.listed o.imports).filter fun p => p.2 == s.name := by
      rw [hfilter]
      exact List.mem_singleton_self _
    exact List.mem_map.2 ⟨s.pair, (List.mem_filter.1 hmem).1, rfl⟩
  · exact filter_listed h hs

/-- A contract on two chains, with a function that is read, one that is written under two
signatures, and an event. -/
def market : Contract where
  name := "Market"
  abi :=
    [.function ⟨"price", [], [], .view⟩,
     .function ⟨"buy", [⟨"amount", "uint256", none, none, false⟩], [], .payable⟩,
     .function ⟨"buy", [⟨"amount", "uint256", none, none, false⟩,
       ⟨"buyer", "address", none, none, false⟩], [], .payable⟩,
     .event ⟨"Sold", [⟨"amount", "uint256", none, none, true⟩], false⟩]
  address := some (.deployments (Deployments.ofList [(1, "0x01"), (10, "0x02")]))
  constants := .standard "Market" true

/-- The texts of a run on the market: its hooks, its constants, its functions and its event. -/
def marketTexts : List String :=
  ["useMarket", "useMarketRead", "usePrepareMarketWrite", "useMarketWrite", "useMarketEvent",
   "useMarketPrice", "usePrepareMarketBuy", "useMarketBuy", "useMarketOnSold",
   "marketAbi", "marketAddress", "marketConfig",
   "price", "buy", "uint256", "buy", "uint256", "address", "Sold", "uint256"]

theorem generate_market (dialect : Dialect) :
    ∃ o, generate {} dialect [market] = .ok o ∧ runTexts [market] o = marketTexts := by
  have htexts : (generate {} dialect [market]).map (runTexts [market]) = .ok marketTexts := by
    cases dialect <;> decide +kernel
  cases h : generate {} dialect [market] with
  | error e => simp [h, Except.map] at htexts
  | ok o => exact ⟨o, rfl, by simpa [h, Except.map] using htexts⟩

/-- The hooks of a market need every symbol there is. In TypeScript each is imported once and
stands in the content, and in JavaScript just those that are not types. -/
theorem the_types_of_a_market_are_imported_in_typescript_only :
    (∃ o, generate {} .typescript [market] = .ok o ∧ ∀ s ∈ Symbol.all,
      ((Imports.listed o.imports).filter fun p => p.2 == s.name) = [s.pair] ∧
        StandsIn Text.isAsciiPart s.name.toList o.content.toList) ∧
    ∃ o, generate {} .javascript [market] = .ok o ∧ ∀ s ∈ Symbol.all,
      (((Imports.listed o.imports).filter fun p => p.2 == s.name) = [s.pair] ↔
        s.typeOnly = false) ∧
        (StandsIn Text.isAsciiPart s.name.toList o.content.toList ↔ s.typeOnly = false) := by
  have hfree : ∀ t ∈ marketTexts, ∀ s ∈ Symbol.all,
      ¬ HasWord IdentifierClass.plain t s.name := by decide +kernel
  have hneeded : ∀ s ∈ Symbol.all, s ∈ neededSymbols {} [market] := by decide +kernel
  have hmarket : ∀ dialect, ∃ o, generate {} dialect [market] = .ok o ∧ ∀ s ∈ Symbol.all,
      (((Imports.listed o.imports).filter fun p => p.2 == s.name) = [s.pair] ↔
        s.isKept dialect.annotated = true) ∧
      (StandsIn Text.isAsciiPart s.name.toList o.content.toList ↔
        s.isKept dialect.annotated = true) := by
    intro dialect
    obtain ⟨o, ho, htexts⟩ := generate_market dialect
    have hlaw := (a_module_imports_the_symbols_of_its_content IdentifierClass.plain ho).2
      fun t ht s hs hstands => hfree t (htexts ▸ ht) s hs ((standsIn_iff hs t).1 hstands)
    refine ⟨o, ho, fun s hs => ?_⟩
    have hkept : s.name ∈ (Imports.listed o.imports).map Prod.snd ↔
        s.isKept dialect.annotated = true :=
      (name_mem_listed_iff ho hs).trans (and_iff_right (hneeded s hs))
    obtain ⟨hname, honce⟩ := hlaw s hs
    exact ⟨honce.trans (hname.symm.trans hkept), hname.symm.trans hkept⟩
  obtain ⟨o, ho, htypescript⟩ := hmarket .typescript
  obtain ⟨o', ho', hjavascript⟩ := hmarket .javascript
  refine ⟨⟨o, ho, fun s hs => ?_⟩, o', ho', fun s hs => ?_⟩
  · simpa [Symbol.isKept, Dialect.annotated] using htypescript s hs
  · simpa [Symbol.isKept, Dialect.annotated] using hjavascript s hs

end ContractHooks
