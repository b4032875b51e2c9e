-- The places that the texts of an interface are put in: the literal that presets a name, and the
-- comment that tells it. Nothing is escaped there. A name is a literal of itself just where each of
-- its characters stands for itself, and a comment ends where it should just where no text that it
-- tells has the end of a comment in it.
import ContractHooks.Abi.Reader
import ContractHooks.Proofs.Hook.Comment
import ContractHooks.Proofs.Module.Append
import ContractHooks.Proofs.Text.Literal

namespace ContractHooks

open Text (Closes IsLiteral behindClose codeUnits)

/-! ## One literal -/

/-- A quoted name ends as a literal of the name at the comma behind it just where each of its
characters stands for itself. -/
theorem literal_of_name_iff (name closing : String) :
    (∃ literal rest, Hook.singleQuoted name ++ ", " ++ closing = literal ++ ", " ++ rest ∧
      IsLiteral literal (codeUnits name.toList)) ↔ Text.Unmarked name := by
  rw [← Text.isLiteral_iff name (", " ++ closing)]
  constructor
  · rintro ⟨literal, rest, htext, hliteral⟩
    refine ⟨literal, ", " ++ rest, ?_, hliteral⟩
    rw [← String.append_assoc, ← String.append_assoc]
    exact htext
  · intro hstarts
    have hplain := (Text.isLiteral_iff name (", " ++ closing)).1 hstarts
    exact ⟨Hook.singleQuoted name, closing, rfl, name.toList, by simp [Hook.singleQuoted],
      .of_plain hplain⟩

/-! ## The law -/

/-- A run that succeeds gives the fragments of its contracts. Each hook for the functions or events
of one name is for entries of the interface, and in its text the name stands between quotes behind
its key. That is a literal with the name as its value, up to a comma, just where each character of
the name stands for itself. The comment of the hook ends with the first `*/` just where none of the
constants of the target, the name, and what the signatures of several entries spell, has one in
it. -/
theorem a_text_stays_in_place_where_it_has_no_meaning {toggles : Hook.Toggles} {dialect : Dialect}
    {contracts : List Contract} {o : Output} (h : generate toggles dialect contracts = .ok o) :
    fragments toggles contracts = .ok (contracts.flatMap (fragmentsOf toggles)) ∧
    o = Output.ofFragments dialect (contracts.flatMap (fragmentsOf toggles)) ∧
    ∀ c ∈ contracts, ∃ target, c.target = .ok target ∧
      fragmentsOf toggles c =
        (plan toggles c.abi).map (fun hook => hook.fragment (hook.kind.hookName c.name) target) ∧
      ∀ hook ∈ plan toggles c.abi, ∀ key, hook.key? = some key →
        let text := (hook.fragment (hook.kind.hookName c.name) target).text dialect
        let p := hook.parts (hook.kind.hookName c.name) target
        let behind := Hook.singleQuoted key.2 ++ ", " ++ p.closing dialect
        (∃ i ∈ c.abi, i.key? = some key) ∧
        text = Hook.docComment hook.layout.primitive target hook.member ++ p.head dialect
          ++ p.opening dialect ++ Hook.targetFields dialect target
          ++ (Hook.memberKey key.1).word ++ ": " ++ behind ∧
        ((∃ literal rest, behind = literal ++ ", " ++ rest ∧
          IsLiteral literal (codeUnits key.2.toList)) ↔ Text.Unmarked key.2) ∧
        text = Hook.commentBody hook.layout.primitive target hook.member ++ " " ++ "*/"
          ++ ("\n" ++ p.function dialect) ∧
        (behindClose text.toList = some ("\n" ++ p.function dialect).toList ↔
          ∀ t ∈ Hook.targetNames target ++ Hook.toldTexts c.abi key, ¬ Closes t) := by
  refine ⟨fragments_eq_ok h, (generate_eq_ok_iff.1 h).2.2, fun c hc => ?_⟩
  obtain ⟨target, ht⟩ := (generate_eq_ok_iff.1 h).1 c hc
  have hfragments : fragmentsOf toggles c =
      (plan toggles c.abi).map (fun hook => hook.fragment (hook.kind.hookName c.name) target) := by
    rw [fragmentsOf, emittedOf, ht]
  refine ⟨target, ht, hfragments, fun hook hhook key hkey => ?_⟩
  rcases Hook.general_or_group (Hook.mem_all_of_mem_plan hhook) with
    ⟨hnone, -⟩ | ⟨g, hg, hgkey, hmember⟩
  · rw [hnone] at hkey
    cases hkey
  obtain rfl : g.key = key := Option.some.inj (hgkey.symm.trans hkey)
  refine ⟨?_, ?_, literal_of_name_iff _ _, Hook.text_eq_comment hook _ target dialect, ?_⟩
  · obtain ⟨i, hi⟩ := List.exists_mem_of_ne_nil _ (Abi.entries_ne_nil hg)
    rw [Abi.entries_groups hg, List.mem_filter] at hi
    exact ⟨i, hi.1, by simpa using hi.2⟩
  · rw [Hook.text_eq_of_member hmember, Hook.key_member, Hook.name_member]
  · have htold := Hook.exists_told_iff Hook.spellable_close hg target
    rw [Hook.behindClose_text, hmember, ← not_iff_not]
    simpa only [not_forall, not_not, exists_prop] using htold

/-- The name of a total is a literal of itself, and the comment of its hook ends before the
function. -/
theorem the_total_of_a_vault_stays_in_place :
    ∃ o fs text before literal rest after,
      generate {} .javascript [readingContract "Vault" "total"] = .ok o ∧
      fragments {} [readingContract "Vault" "total"] = .ok fs ∧
      text ∈ fs.map (Hook.Fragment.text .javascript) ∧
      text = before ++ "functionName" ++ ": " ++ (literal ++ ", " ++ rest) ∧
      IsLiteral literal (codeUnits "total".toList) ∧
      behindClose text.toList =
        some ("\n" ++ ("export function " ++ "useVaultTotal" ++ after)).toList := by
  have hok : ∃ o, generate {} .javascript [readingContract "Vault" "total"] = .ok o := ⟨_, rfl⟩
  obtain ⟨o, ho⟩ := hok
  have hhook : Hook.read (some ⟨"total", [⟨"total", [], [], .view⟩]⟩) ∈
      plan {} (readingContract "Vault" "total").abi :=
    .tail _ (.tail _ (.head _))
  obtain ⟨hfs, -, hcontract⟩ := a_text_stays_in_place_where_it_has_no_meaning ho
  obtain ⟨target, ht, hown, hhooks⟩ := hcontract _ List.mem_cons_self
  obtain ⟨-, htext, hliteral, -, hcomment⟩ := hhooks _ hhook _ rfl
  have htarget : (readingContract "Vault" "total").target = .ok (.abi "vaultAbi") := rfl
  obtain rfl : Target.abi "vaultAbi" = target := Except.ok.inj (htarget.symm.trans ht)
  obtain ⟨literal, rest, hbehind, hvalue⟩ := hliteral.2 (by decide)
  have hclose := hcomment.2 (by decide)
  have hname : Hook.Kind.hookName "Vault" (.functionRead "total") = "useVaultTotal" := by decide
  rw [hbehind] at htext
  rw [Hook.Parts.function_eq] at hclose
  refine ⟨o, _, _, _, literal, rest, _, ho, hfs, ?_, htext, hvalue, hname ▸ hclose⟩
  refine List.mem_map_of_mem (List.mem_flatMap.2 ⟨_, List.mem_cons_self, ?_⟩)
  rw [hown]
  exact List.mem_map_of_mem hhook

/-- An entry of an interface, a function that reads. -/
def readingEntry (name : String) : Json :=
  .object [("type", .text "function"), ("name", .text name), ("stateMutability", .text "view")]

/-- A contract with functions whose names have a meaning where they are put. -/
def strangeContract : Contract :=
  ⟨"Vault", [.function ⟨"it's", [], [], .view⟩, .function ⟨"*/", [], [], .view⟩], none,
    .standard "Vault" false⟩

/-- The quote of a name ends its literal, and a name that ends a comment ends the one of its
hook. -/
theorem a_strange_name_breaks_out :
    Abi.ofJson (.list [readingEntry "it's", readingEntry "*/"]) = .ok strangeContract.abi ∧
    ∃ o fs f g, generate {} .javascript [strangeContract] = .ok o ∧
      fragments {} [strangeContract] = .ok fs ∧ f ∈ fs ∧ g ∈ fs ∧
      (∃ before, f.text .javascript =
        before ++ "functionName" ++ ": " ++ "'it's', ...config \x7d)\n\x7d") ∧
      (¬ ∃ literal rest, "'it's', ...config \x7d)\n\x7d" = literal ++ ", " ++ rest ∧
        IsLiteral literal (codeUnits "it's".toList)) ∧
      ∃ comment function, g.text .javascript = comment ++ "*/" ++ ("\n" ++ function) ∧
        "export function ".toList <+: function.toList ∧
        behindClose (g.text .javascript).toList ≠ some ("\n" ++ function).toList := by
  have hok : ∃ o, generate {} .javascript [strangeContract] = .ok o := ⟨_, rfl⟩
  obtain ⟨o, ho⟩ := hok
  let quoting : Hook := .read (some ⟨"it's", [⟨"it's", [], [], .view⟩]⟩)
  let closing : Hook := .read (some ⟨"*/", [⟨"*/", [], [], .view⟩]⟩)
  have htarget : strangeContract.target = .ok (.abi "vaultAbi") := rfl
  have hmem {hook : Hook} (hhook : hook ∈ plan {} strangeContract.abi) :
      hook.fragment (hook.kind.hookName "Vault") (.abi "vaultAbi") ∈
        [strangeContract].flatMap (fragmentsOf {}) :=
    List.mem_flatMap.2
      ⟨strangeContract, List.mem_cons_self, mem_fragmentsOf.2 ⟨_, htarget, hook, hhook, rfl⟩⟩
  have hquoting : quoting ∈ plan {} strangeContract.abi := .tail _ (.tail _ (.head _))
  have hclosing : closing ∈ plan {} strangeContract.abi := .tail _ (.tail _ (.tail _ (.head _)))
  have hbehind : "'it's', ...config \x7d)\n\x7d" =
      Hook.singleQuoted "it's" ++ ", " ++ ("...config \x7d" ++ "" ++ ")\n\x7d") := by decide
  refine ⟨rfl, o, _, _, _, ho, fragments_eq_ok ho, hmem hquoting, hmem hclosing, ?_, ?_, ?_⟩
  · rw [hbehind]
    have hmember : quoting.member = some ⟨.functionName, "it's", []⟩ := rfl
    exact ⟨_, Hook.text_eq_of_member hmember _ (.abi "vaultAbi") .javascript⟩
  · rw [hbehind, literal_of_name_iff]
    decide
  · refine ⟨_, _, Hook.text_eq_comment closing _ (.abi "vaultAbi") .javascript, ?_, ?_⟩
    · rw [Hook.Parts.function_eq, String.append_assoc, String.toList_append]
      exact List.prefix_append _ _
    · rw [ne_eq, Hook.behindClose_text]
      intro htold
      exact htold "*/" (by decide) (by decide)

end ContractHooks
