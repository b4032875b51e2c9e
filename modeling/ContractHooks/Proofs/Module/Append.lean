-- Runs over lists of contracts put together. A run over two lists in a row ends like the run over
-- the first where that fails, and else gives the hooks of both, if no hook of the second has the
-- name of one of the first. How a run ends does not hang on the order of its contracts.
import ContractHooks.Proofs.Hook.Function
import ContractHooks.Proofs.Hook.ImportAppend
import ContractHooks.Proofs.Module.Output

namespace ContractHooks

variable {toggles : Hook.Toggles} {dialect : Dialect}

/-! ## The parts of a module -/

/-- Two contents with a blank line between them, or the one that is not empty. -/
def joinContents (a b : String) : String :=
  if a = "" then b else if b = "" then a else a ++ "\n\n" ++ b

/-- The text of a fragment of a contract is not empty. -/
theorem text_ne_empty {contracts : List Contract} {f : Hook.Fragment}
    (hf : f ∈ contracts.flatMap (fragmentsOf toggles)) : f.text dialect ≠ "" := by
  obtain ⟨c, -, hf⟩ := List.mem_flatMap.1 hf
  obtain ⟨target, -, hook, -, rfl⟩ := mem_fragmentsOf.1 hf
  intro hempty
  have hhead := Hook.head?_text hook (hook.kind.hookName c.name) target dialect
  rw [hempty] at hhead
  cases hhead

/-- The content is empty just where there are no fragments. -/
theorem content_eq_empty_iff (contracts : List Contract) :
    (Output.ofFragments dialect (contracts.flatMap (fragmentsOf toggles))).content = "" ↔
      contracts.flatMap (fragmentsOf toggles) = [] := by
  have htext : ∀ f ∈ contracts.flatMap (fragmentsOf toggles), f.text dialect ≠ "" :=
    fun _ hf => text_ne_empty hf
  unfold Output.ofFragments
  cases hfs : contracts.flatMap (fragmentsOf toggles) with
  | nil => simp
  | cons f fs =>
    have hf : f.text dialect ≠ "" := htext f (hfs ▸ List.mem_cons_self)
    cases fs with
    | nil => simp [hf]
    | cons g gs => simp [String.intercalate_cons_cons, hf]

theorem content_append (xs ys : List Contract) :
    (Output.ofFragments dialect ((xs ++ ys).flatMap (fragmentsOf toggles))).content =
      joinContents (Output.ofFragments dialect (xs.flatMap (fragmentsOf toggles))).content
        (Output.ofFragments dialect (ys.flatMap (fragmentsOf toggles))).content := by
  unfold joinContents
  simp only [content_eq_empty_iff]
  rw [List.flatMap_append]
  by_cases hxs : xs.flatMap (fragmentsOf toggles) = []
  · rw [if_pos hxs, hxs, List.nil_append]
  · rw [if_neg hxs]
    by_cases hys : ys.flatMap (fragmentsOf toggles) = []
    · rw [if_pos hys, hys, List.append_nil]
    · rw [if_neg hys]
      unfold Output.ofFragments
      dsimp only
      rw [List.map_append, String.intercalate_append_of_ne_nil (by simpa using hxs)
        (by simpa using hys)]

theorem isPlain_needed (contracts : List Contract) :
    ∀ s ∈ neededSymbols toggles contracts,
      Imports.IsPlain s.library ∧ Imports.IsPlain s.name :=
  fun _ hs => isPlain_of_mem_all (neededSymbols_subset toggles contracts hs)

/-- The imports of a run are read back to the sections that they were written from. -/
theorem sectionsIn_imports (contracts : List Contract) :
    Imports.sectionsIn
        (Output.ofFragments dialect (contracts.flatMap (fragmentsOf toggles))).imports =
      (Imports.ofRequests dialect.annotated (neededSymbols toggles contracts)).sections := by
  unfold Output.ofFragments
  rw [importsOf_symbols]
  exact Imports.sectionsIn_text (Imports.isPlain_sections (isPlain_needed contracts))

theorem imports_append (xs ys : List Contract) :
    (Output.ofFragments dialect ((xs ++ ys).flatMap (fragmentsOf toggles))).imports =
      Imports.text ⟨Imports.extend
        (Imports.sectionsIn
          (Output.ofFragments dialect (xs.flatMap (fragmentsOf toggles))).imports)
        (Imports.sectionsIn
          (Output.ofFragments dialect (ys.flatMap (fragmentsOf toggles))).imports)⟩ := by
  have hneeded : neededSymbols toggles (xs ++ ys) =
      neededSymbols toggles xs ++ neededSymbols toggles ys := by
    unfold neededSymbols
    rw [List.flatMap_append, List.flatMap_append]
  rw [sectionsIn_imports, sectionsIn_imports, ← Imports.sections_append, ← hneeded,
    ← importsOf_symbols]
  rfl

/-! ## Runs in a row -/

theorem stepsOf_append (names : Contract → List String) (xs ys : List Contract) :
    stepsOf names (xs ++ ys) = stepsOf names xs ++ stepsOf names ys := by
  unfold stepsOf
  rw [List.flatMap_append]

/-- The first failure of a run is that of every run that goes on behind it. -/
theorem generate_append_error {xs : List Contract} {e : Error}
    (h : generate toggles dialect xs = .error e) (ys : List Contract) :
    generate toggles dialect (xs ++ ys) = .error e := by
  rw [generate_eq] at h ⊢
  rw [stepsOf_append, firstFault?_append]
  cases hf : firstFault? [] (stepsOf (plannedNames toggles) xs) with
  | none =>
    rw [hf] at h
    cases h
  | some e' =>
    rw [hf] at h
    cases h
    rfl

/-- The hooks of a run are the planned ones. -/
theorem hooks_eq {contracts : List Contract} {o : Output}
    (h : generate toggles dialect contracts = .ok o) :
    o.hooks = contracts.flatMap (plannedNames toggles) := by
  obtain ⟨hres, -, rfl⟩ := generate_eq_ok_iff.1 h
  exact map_name_fragmentsOf hres

/-- Whether a run succeeds hangs on its contracts and on the names that they plan. -/
theorem succeeds_iff {contracts : List Contract} :
    (∃ o, generate toggles dialect contracts = .ok o) ↔
      (∀ c ∈ contracts, ∃ target, c.target = .ok target) ∧
        (contracts.flatMap (plannedNames toggles)).Nodup := by
  constructor
  · rintro ⟨o, ho⟩
    obtain ⟨hres, hnodup, -⟩ := generate_eq_ok_iff.1 ho
    exact ⟨hres, hnodup⟩
  · rintro ⟨hres, hnodup⟩
    exact ⟨_, generate_eq_ok_iff.2 ⟨hres, hnodup, rfl⟩⟩

theorem succeeds_append_iff {xs ys : List Contract} :
    (∃ o, generate toggles dialect (xs ++ ys) = .ok o) ↔
      ∃ ox oy, generate toggles dialect xs = .ok ox ∧ generate toggles dialect ys = .ok oy ∧
        ox.hooks.Disjoint oy.hooks := by
  rw [succeeds_iff, List.flatMap_append, List.nodup_append']
  constructor
  · rintro ⟨hres, hxs, hys, hdisjoint⟩
    have hsx : ∃ ox, generate toggles dialect xs = .ok ox :=
      succeeds_iff.2 ⟨fun c hc => hres c (List.mem_append_left ys hc), hxs⟩
    have hsy : ∃ oy, generate toggles dialect ys = .ok oy :=
      succeeds_iff.2 ⟨fun c hc => hres c (List.mem_append_right xs hc), hys⟩
    obtain ⟨ox, hox⟩ := hsx
    obtain ⟨oy, hoy⟩ := hsy
    refine ⟨ox, oy, hox, hoy, ?_⟩
    rw [hooks_eq hox, hooks_eq hoy]
    exact hdisjoint
  · rintro ⟨ox, oy, hox, hoy, hdisjoint⟩
    rw [hooks_eq hox, hooks_eq hoy] at hdisjoint
    obtain ⟨hresx, hxs⟩ := succeeds_iff.1 ⟨ox, hox⟩
    obtain ⟨hresy, hys⟩ := succeeds_iff.1 ⟨oy, hoy⟩
    refine ⟨fun c hc => ?_, hxs, hys, hdisjoint⟩
    exact (List.mem_append.1 hc).elim (hresx c) (hresy c)

/-! ## The order of contracts -/

/-- The fragments of a run that succeeds are those of its contracts. -/
theorem fragments_eq_ok {contracts : List Contract} {o : Output}
    (h : generate toggles dialect contracts = .ok o) :
    fragments toggles contracts = .ok (contracts.flatMap (fragmentsOf toggles)) := by
  unfold generate at h
  rw [writtenHooks_eq] at h
  rw [fragments_eq]
  cases hf : firstFault? [] (stepsOf (hookNames toggles) contracts) with
  | none => rfl
  | some e =>
    rw [hf] at h
    cases h

theorem succeeds_iff_of_perm {xs zs : List Contract} (h : xs.Perm zs) :
    (∃ o, generate toggles dialect xs = .ok o) ↔ ∃ o, generate toggles dialect zs = .ok o := by
  rw [succeeds_iff, succeeds_iff, (h.flatMap_right _).nodup_iff]
  simp only [h.mem_iff]

/-- The names that are imported hang only on which symbols are needed. -/
theorem mem_listed_iff_of_perm {xs zs : List Contract} (h : xs.Perm zs) {ox oz : Output}
    (hox : generate toggles dialect xs = .ok ox) (hoz : generate toggles dialect zs = .ok oz)
    (p : String × String) : p ∈ Imports.listed ox.imports ↔ p ∈ Imports.listed oz.imports := by
  have hneeded : (neededSymbols toggles xs).Perm (neededSymbols toggles zs) :=
    (h.flatMap_right _).flatMap_right _
  rw [mem_listed hox, mem_listed hoz]
  simp only [hneeded.mem_iff]

/-! ## The law -/

/-- A run over two lists in a row fails as the run over the first does, and it succeeds just where
both runs do and no name of a hook is in both. Its hooks are then those of the one and those of the
other, its content has a blank line between the two contents, and its imports are those of the
first with what only the second asks for. Contracts in another order give the same fragments and
the same imported names, or fail as well. -/
theorem runs_in_a_row_are_joined (toggles : Hook.Toggles) (dialect : Dialect)
    (xs ys : List Contract) :
    (∀ e, generate toggles dialect xs = .error e →
      generate toggles dialect (xs ++ ys) = .error e) ∧
    ((∃ o, generate toggles dialect (xs ++ ys) = .ok o) ↔
      ∃ ox oy, generate toggles dialect xs = .ok ox ∧ generate toggles dialect ys = .ok oy ∧
        ox.hooks.Disjoint oy.hooks) ∧
    (∀ o ox oy, generate toggles dialect (xs ++ ys) = .ok o →
      generate toggles dialect xs = .ok ox → generate toggles dialect ys = .ok oy →
      o.hooks = ox.hooks ++ oy.hooks ∧
      o.content = joinContents ox.content oy.content ∧
      ox.imports = Imports.text ⟨Imports.sectionsIn ox.imports⟩ ∧
      oy.imports = Imports.text ⟨Imports.sectionsIn oy.imports⟩ ∧
      o.imports = Imports.text
        ⟨Imports.extend (Imports.sectionsIn ox.imports) (Imports.sectionsIn oy.imports)⟩) ∧
    ∀ zs, xs.Perm zs →
      ((∃ o, generate toggles dialect xs = .ok o) ↔ ∃ o, generate toggles dialect zs = .ok o) ∧
      ∀ ox oz, generate toggles dialect xs = .ok ox → generate toggles dialect zs = .ok oz →
        (∃ fx fz, fragments toggles xs = .ok fx ∧ fragments toggles zs = .ok fz ∧
          fx.Perm fz ∧ ox = Output.ofFragments dialect fx ∧ oz = Output.ofFragments dialect fz) ∧
        ∀ p, p ∈ Imports.listed ox.imports ↔ p ∈ Imports.listed oz.imports := by
  refine ⟨fun e he => generate_append_error he ys, succeeds_append_iff, ?_, ?_⟩
  · intro o ox oy ho hox hoy
    refine ⟨?_, ?_, ?_, ?_, ?_⟩
    · rw [hooks_eq ho, hooks_eq hox, hooks_eq hoy, List.flatMap_append]
    all_goals
      obtain ⟨-, -, rfl⟩ := generate_eq_ok_iff.1 ho
      obtain ⟨-, -, rfl⟩ := generate_eq_ok_iff.1 hox
      obtain ⟨-, -, rfl⟩ := generate_eq_ok_iff.1 hoy
    · exact content_append xs ys
    · rw [sectionsIn_imports, ← importsOf_symbols]
      rfl
    · rw [sectionsIn_imports, ← importsOf_symbols]
      rfl
    · exact imports_append xs ys
  · intro zs hzs
    refine ⟨succeeds_iff_of_perm hzs, fun ox oz hox hoz => ⟨?_, ?_⟩⟩
    · exact ⟨_, _, fragments_eq_ok hox, fragments_eq_ok hoz, hzs.flatMap_right _,
        (generate_eq_ok_iff.1 hox).2.2, (generate_eq_ok_iff.1 hoz).2.2⟩
    · exact mem_listed_iff_of_perm hzs hox hoz

/-- A contract with one function that reads, under the usual names. -/
def readingContract (name function : String) : Contract :=
  ⟨name, [.function ⟨function, [], [], .view⟩], none, .standard name false⟩

/-- The hooks of two contracts stand in a row, and what the second asks for is imported already. -/
theorem a_vault_and_a_bank_are_joined :
    ∃ o ox oy, generate {} .javascript [readingContract "Vault" "total"] = .ok ox ∧
      generate {} .javascript [readingContract "Bank" "total"] = .ok oy ∧
      generate {} .javascript
        [readingContract "Vault" "total", readingContract "Bank" "total"] = .ok o ∧
      o.hooks = ["useVault", "useVaultRead", "useVaultTotal"]
        ++ ["useBank", "useBankRead", "useBankTotal"] ∧
      o.imports = ox.imports := by
  have hx : ∃ ox, generate {} .javascript [readingContract "Vault" "total"] = .ok ox ∧
      ox.hooks = ["useVault", "useVaultRead", "useVaultTotal"] ∧
      ox.imports = "import \x7b useContract, useContractRead \x7d from 'wagmi'" :=
    ⟨_, rfl, by decide, by decide⟩
  have hy : ∃ oy, generate {} .javascript [readingContract "Bank" "total"] = .ok oy ∧
      oy.hooks = ["useBank", "useBankRead", "useBankTotal"] ∧
      oy.imports = "import \x7b useContract, useContractRead \x7d from 'wagmi'" :=
    ⟨_, rfl, by decide, by decide⟩
  obtain ⟨ox, hox, hooksx, importsx⟩ := hx
  obtain ⟨oy, hoy, hooksy, importsy⟩ := hy
  obtain ⟨-, hsucceeds, hjoined, -⟩ := runs_in_a_row_are_joined {} .javascript
    [readingContract "Vault" "total"] [readingContract "Bank" "total"]
  have hdisjoint : ox.hooks.Disjoint oy.hooks := by
    rw [hooksx, hooksy, List.disjoint_left]
    decide
  obtain ⟨o, ho⟩ := hsucceeds.2 ⟨ox, oy, hox, hoy, hdisjoint⟩
  obtain ⟨hhooks, -, -, -, himports⟩ := hjoined o ox oy ho hox hoy
  refine ⟨o, ox, oy, hox, hoy, ho, ?_, ?_⟩
  · rw [hhooks, hooksx, hooksy]
  · rw [himports, importsx, importsy]
    decide

end ContractHooks
