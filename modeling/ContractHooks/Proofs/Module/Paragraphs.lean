-- A generated module taken apart again. Between its blank lines stand the imports and the hooks,
-- each whole, as long as no text that a contract brings along has a line end in it.
import ContractHooks.Proofs.Hook.Given
import ContractHooks.Proofs.Hook.Lines
import ContractHooks.Proofs.Module.Append
import ContractHooks.Proofs.Module.Binding
import ContractHooks.Proofs.Module.ImportUse
import ContractHooks.Proofs.Text.Recased

namespace ContractHooks

open Text (OneLine Flows Opens)

variable {toggles : Hook.Toggles} {dialect : Dialect}

/-! ## Texts of a contract -/

/-- The texts that a contract is given by, as far as its hooks can come to have them: its name, the
names of its constants, the names of its functions and events, and the types of their inputs. -/
def Contract.givenTexts (c : Contract) : List String :=
  c.name :: c.constantNames ++ c.abi.flatMap Abi.Item.spelled

/-- A line end in a signature is one of its name or of a type. -/
theorem spellable_lineEnd : Abi.Spellable fun text => ¬ OneLine text where
  toThrough := Text.through_lineEnd (by decide)
  selector signature := by
    have hdigit : ∀ n : Fin 16, '\n' ≠ Text.hexChar n.val := by decide
    refine not_not_intro fun hmem => ?_
    rcases Abi.mem_selector hmem with hx | ⟨n, hn⟩
    · exact absurd hx (by decide)
    · exact hdigit n hn
  tuple suffix := by
    have htuple : OneLine "tuple" := by decide
    rw [Text.oneLine_append, and_iff_right htuple]

theorem oneLine_of_mem_givenTexts {c : Contract} (h : ∀ t ∈ c.givenTexts, OneLine t)
    {target : Target} (ht : c.target = .ok target) {hook : Hook}
    (hhook : hook ∈ plan toggles c.abi) {u : String} (hu : u ∈ Hook.givenTexts target hook.member) :
    OneLine u := by
  by_contra hnot
  obtain ⟨t, hmem, hnot⟩ := Hook.of_givenTexts spellable_lineEnd.toTraceable
    (Hook.mem_all_of_mem_plan hhook) hu hnot
  rcases List.mem_append.1 hmem with hmem | hmem
  · exact hnot (h t (by simp [Contract.givenTexts, targetNames_subset_constantNames ht hmem]))
  · obtain ⟨i, hi, hmem⟩ := List.mem_flatMap.1 hmem
    obtain ⟨s, hs, hnot⟩ := (spellable_lineEnd.texts i).1 ⟨t, hmem, hnot⟩
    refine hnot (h s (List.mem_append_right _ ?_))
    exact List.mem_flatMap.2 ⟨i, hi, hs⟩

/-- The name of a planned hook is in one line. -/
theorem oneLine_planned {c : Contract} (h : ∀ t ∈ c.givenTexts, OneLine t) {target : Target}
    (ht : c.target = .ok target) {hook : Hook} (hhook : hook ∈ plan toggles c.abi) :
    OneLine (hook.kind.hookName c.name) := by
  have hbase : hook.kind.base? = hook.member.map Hook.Member.name := by
    rcases hook with _ | (_ | o) | (_ | o) | (_ | o) | (_ | o) <;> rfl
  refine Hook.oneLine_hookName (h c.name (by simp [Contract.givenTexts])) fun name hname => ?_
  rw [hbase, Option.mem_def, Option.map_eq_some_iff] at hname
  obtain ⟨m, hm, rfl⟩ := hname
  refine oneLine_of_mem_givenTexts h ht hhook ?_
  rw [hm]
  exact Hook.name_mem_givenTexts target m

/-! ## Imports -/

/-- An import section has no blank line. -/
theorem flows_imports (contracts : List Contract) :
    Flows (· == 'i')
      (Output.ofFragments dialect (contracts.flatMap (fragmentsOf toggles))).imports := by
  have hplain : ∀ s ∈ (Imports.ofRequests dialect.annotated
      (neededSymbols toggles contracts)).sections,
      Imports.IsPlain s.1 ∧ ∀ n ∈ s.2, Imports.IsPlain n :=
    Imports.isPlain_sections (isPlain_needed contracts)
  unfold Output.ofFragments
  rw [importsOf_symbols]
  refine (Text.flows_intercalate fun t ht => ?_).1
  obtain ⟨s, hs, rfl⟩ := List.mem_map.1 ht
  have hline : OneLine (Imports.line s.1 s.2) :=
    Imports.newline_notMem_line (hplain s hs).1 (hplain s hs).2
  refine ⟨hline.flows, ?_⟩
  unfold Imports.line
  simp only [String.append_assoc]
  exact Opens.append (by decide) _

/-- The imports are empty just where there are no fragments, as a hook imports what it wraps. -/
theorem imports_eq_empty_iff {contracts : List Contract} {o : Output}
    (h : generate toggles dialect contracts = .ok o) :
    o.imports = "" ↔ contracts.flatMap (fragmentsOf toggles) = [] := by
  constructor
  · intro hempty
    rw [List.eq_nil_iff_forall_not_mem]
    intro f hf
    obtain ⟨c, hc, hfragment⟩ := List.mem_flatMap.1 hf
    obtain ⟨target, ht, hook, hhook, rfl⟩ := mem_fragmentsOf.1 hfragment
    have hneeded : Symbol.hook hook.layout.primitive ∈ neededSymbols toggles contracts :=
      mem_neededSymbols.2
        ⟨c, hc, target, ht, hook, hhook, .inl (hook_mem_layoutSymbols hook.layout)⟩
    have hlisted := (mem_listed h).2 ⟨_, hneeded, rfl, rfl⟩
    rw [hempty] at hlisted
    exact absurd hlisted List.not_mem_nil
  · intro hnone
    rw [(generate_eq_ok_iff.1 h).2.2, hnone]
    rfl

/-! ## The law -/

/-- The text of a module up to its last line end has its imports and its hooks as paragraphs. -/
theorem paragraphs_ofFragments {contracts : List Contract}
    (h : ∀ c ∈ contracts, ∀ t ∈ c.givenTexts, OneLine t)
    (hne : contracts.flatMap (fragmentsOf toggles) ≠ []) :
    let o := Output.ofFragments dialect (contracts.flatMap (fragmentsOf toggles))
    Text.paragraphs (o.imports ++ "\n\n" ++ o.content) =
      o.imports :: (contracts.flatMap (fragmentsOf toggles)).map (Hook.Fragment.text dialect) := by
  intro o
  have hflows : ∀ t ∈ (contracts.flatMap (fragmentsOf toggles)).map (Hook.Fragment.text dialect),
      Flows Hook.startsLine t := by
    intro t ht
    obtain ⟨f, hf, rfl⟩ := List.mem_map.1 ht
    obtain ⟨c, hc, hf⟩ := List.mem_flatMap.1 hf
    obtain ⟨target, htarget, hook, hhook, rfl⟩ := mem_fragmentsOf.1 hf
    exact Hook.flows_text (fun u hu => oneLine_of_mem_givenTexts (h c hc) htarget hhook hu)
      (oneLine_planned (h c hc) htarget hhook) dialect
  have htext : o.imports ++ "\n\n" ++ o.content = String.intercalate "\n\n"
      (o.imports :: (contracts.flatMap (fragmentsOf toggles)).map (Hook.Fragment.text dialect)) :=
    (String.intercalate_cons_of_ne_nil (by simpa using hne)).symm
  rw [htext]
  refine Text.paragraphs_intercalate (List.cons_ne_nil _ _) fun t ht => ?_
  rcases List.mem_cons.1 ht with rfl | ht
  · exact ⟨_, by decide, flows_imports contracts⟩
  · exact ⟨_, by decide, hflows t ht⟩

/-- The imports, the content and the hooks of a module are empty together. Where there is a hook and
no text that the contracts are given by has a line end, the module up to its last line end has as
its paragraphs the imports and then the text of each fragment in order. One line of such a text
exports a function, and it is the function of the hook at the same place. -/
theorem a_module_comes_apart_at_its_blank_lines {toggles : Hook.Toggles} {dialect : Dialect}
    {contracts : List Contract} {o : Output} (h : generate toggles dialect contracts = .ok o) :
    (o.imports = "" ↔ o.hooks = []) ∧ (o.content = "" ↔ o.hooks = []) ∧
    (o.hooks ≠ [] → (∀ c ∈ contracts, ∀ t ∈ c.givenTexts, OneLine t) →
      ∃ fs body, fragments toggles contracts = .ok fs ∧ o.moduleText = body ++ "\n" ∧
        Text.paragraphs body = o.imports :: fs.map (Hook.Fragment.text dialect) ∧
        List.Forall₂ (fun name f => ∃ rest,
          (Text.lines (f.text dialect)).filter Hook.declares =
            ["export function " ++ name ++ rest] ∧
          Opens Hook.startsParameters rest) o.hooks fs) := by
  have hfragments := fragments_eq_ok h
  have himports := imports_eq_empty_iff h
  have hcontent : (Output.ofFragments dialect
      (contracts.flatMap (fragmentsOf toggles))).content = "" ↔
        contracts.flatMap (fragmentsOf toggles) = [] := content_eq_empty_iff contracts
  obtain ⟨-, -, rfl⟩ := generate_eq_ok_iff.1 h
  have hhooks : (Output.ofFragments dialect (contracts.flatMap (fragmentsOf toggles))).hooks = [] ↔
      contracts.flatMap (fragmentsOf toggles) = [] := List.map_eq_nil_iff
  refine ⟨himports.trans hhooks.symm, hcontent.trans hhooks.symm, fun hne hlines => ?_⟩
  have hne : contracts.flatMap (fragmentsOf toggles) ≠ [] := fun hnone => hne (hhooks.2 hnone)
  refine ⟨_, _, hfragments, ?_, paragraphs_ofFragments hlines hne, ?_⟩
  · have hsome : (Output.ofFragments dialect
        (contracts.flatMap (fragmentsOf toggles))).imports.isEmpty = false := by
      rw [Bool.eq_false_iff, ne_eq, String.isEmpty_iff]
      exact fun hempty => hne (himports.1 hempty)
    rw [Output.moduleText, hsome, if_neg Bool.false_ne_true]
  · show List.Forall₂ _ ((contracts.flatMap (fragmentsOf toggles)).map Hook.Fragment.name) _
    rw [List.forall₂_map_left_iff, List.forall₂_same]
    intro f hf
    obtain ⟨c, hc, hf⟩ := List.mem_flatMap.1 hf
    obtain ⟨target, htarget, hook, hhook, rfl⟩ := mem_fragmentsOf.1 hf
    exact Hook.filter_declares_lines
      (fun u hu => oneLine_of_mem_givenTexts (hlines c hc) htarget hhook hu)
      (oneLine_planned (hlines c hc) htarget hhook) dialect

/-- The module of a vault has four paragraphs, and the third exports the hook that reads. -/
theorem the_module_of_a_vault_has_four_paragraphs :
    ∃ o body imports contract read total,
      generate {} .typescript [readingContract "Vault" "total"] = .ok o ∧
      o.moduleText = body ++ "\n" ∧
      Text.paragraphs body = [imports, contract, read, total] ∧
      ∃ rest, (Text.lines read).filter Hook.declares =
        ["export function useVaultRead" ++ rest] := by
  have hok : ∃ o, generate {} .typescript [readingContract "Vault" "total"] = .ok o ∧
      o.hooks = ["useVault", "useVaultRead", "useVaultTotal"] := ⟨_, rfl, by decide⟩
  obtain ⟨o, ho, hhooks⟩ := hok
  have hlines : ∀ c ∈ [readingContract "Vault" "total"], ∀ t ∈ c.givenTexts, OneLine t := by
    decide
  obtain ⟨fs, body, -, hbody, hparagraphs, hdeclares⟩ :=
    (a_module_comes_apart_at_its_blank_lines ho).2.2 (by simp [hhooks]) hlines
  rw [hhooks] at hdeclares
  match fs, hdeclares with
  | [contract, read, total], .cons _ (.cons ⟨rest, hread, _⟩ _) =>
    exact ⟨o, body, o.imports, _, _, _, ho, hbody, hparagraphs, rest, hread⟩

end ContractHooks
