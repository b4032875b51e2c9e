-- What the names of hooks keep of the names that they are made of. For names of ASCII letters,
-- digits, dollar signs and separators, the name of a hook is an identifier that has the letters of
-- both, around them the fixed words of its kind, and nothing else: only case and separators are lost.
import ContractHooks.Proofs.Hook.Name
import ContractHooks.Proofs.Text.Letters

namespace ContractHooks

/-! ## Names -/

namespace Text

/-- Whether a text has only ASCII letters and digits, dollar signs and separators. -/
def isName (text : String) : Bool :=
  text.toList.all fun c => c.isAlphanum || c == '$' || isSeparator c

/-- Whether a character can be part of the name of a hook. -/
def isHookChar (c : Char) : Bool := c.isAlphanum || c == '$'

theorem isAlphanum_lt {c : Char} (h : c.isAlphanum = true) : c.toNat < 128 := by
  have hranges : (decide (65 ≤ c.val ∧ c.val ≤ 90) ||
      (decide (97 ≤ c.val) && decide (c.val ≤ 122)) ||
      (decide (48 ≤ c.val) && decide (c.val ≤ 57))) = true := h
  simp only [Bool.or_eq_true, Bool.and_eq_true, decide_eq_true_eq, UInt32.le_iff_toNat_le]
    at hranges
  change ((65 ≤ c.toNat ∧ c.toNat ≤ 90) ∨ 97 ≤ c.toNat ∧ c.toNat ≤ 122) ∨
    48 ≤ c.toNat ∧ c.toNat ≤ 57 at hranges
  omega

theorem isHookChar_lt {c : Char} (h : isHookChar c = true) : c.toNat < 128 := by
  simp only [isHookChar, Bool.or_eq_true, beq_iff_eq] at h
  rcases h with h | rfl
  · exact isAlphanum_lt h
  · decide

/-- The case of a letter does not decide whether it can be part of a hook's name. -/
theorem isHookChar_case {c : Char} (h : isHookChar c = true) :
    isHookChar c.toUpper = true ∧ isHookChar c.toLower = true :=
  ascii_forall
    (p := fun c => isHookChar c = true →
      isHookChar c.toUpper = true ∧ isHookChar c.toLower = true)
    (by decide +kernel) (isHookChar_lt h) h

theorem isName_iff {text : String} :
    isName text = true ↔ ∀ c ∈ text.toList, isHookChar c = true ∨ isSeparator c = true := by
  simp [isName, isHookChar]

theorem isName_empty : isName "" = true := rfl

theorem isAscii_of_isName {text : String} (h : isName text = true) : IsAscii text.toList := by
  intro c hc
  rcases isName_iff.1 h c hc with hc | hc
  · exact isHookChar_lt hc
  · simp only [isSeparator, Bool.or_eq_true, beq_iff_eq, or_assoc] at hc
    rcases hc with rfl | rfl | rfl <;> decide

theorem newline_notMem_of_isName {text : String} (h : isName text = true) :
    '\n' ∉ text.toList := by
  intro hn
  rcases isName_iff.1 h _ hn with hc | hc
  · exact absurd hc (by decide)
  · exact absurd hc (by decide)

theorem letters_of_isName {text : String} (h : isName text = true) :
    letters text = (squeezed text).toList :=
  letters_eq_squeezed (isAscii_of_isName h) (newline_notMem_of_isName h)

theorem isHookChar_of_mem_squeezed {text : String} (h : isName text = true) {c : Char}
    (hc : c ∈ (squeezed text).toList) : isHookChar c = true := by
  rw [squeezed, String.toList_ofList, List.mem_filter] at hc
  refine (isName_iff.1 h c hc.1).resolve_right ?_
  simpa using hc.2

theorem isHookChar_of_mem_pascal {text : String} (h : isName text = true) {c : Char}
    (hc : c ∈ (pascal text).toList) : isHookChar c = true := by
  obtain ⟨d, hd, hcase⟩ := mem_pascal (isAscii_of_isName h) hc
  rw [letters_of_isName h] at hd
  have hcases := isHookChar_case (isHookChar_of_mem_squeezed h hd)
  rcases hcase with rfl | rfl
  · exact hcases.1
  · exact hcases.2

theorem map_toLower_pascal_of_isName {text : String} (h : isName text = true) :
    (pascal text).toList.map Char.toLower = (squeezed text).toList.map Char.toLower := by
  rw [map_toLower_pascal (isAscii_of_isName h), letters_of_isName h]

/-- The lower case of a text that could be part of a hook's name. -/
theorem lower_of_hookChars {text : String} (h : ∀ c ∈ text.toList, isHookChar c = true) :
    lower text.toList = text.toList.map Char.toLower :=
  lower_ascii fun c hc => isHookChar_lt (h c hc)

end Text

/-! ## Fixed words -/

namespace Hook

open Text (isHookChar isName squeezed pascal)

/-- The fixed word of a kind behind the name of the contract. -/
def Kind.word : Kind → String
  | .contract | .functionRead _ | .functionWrite _ | .prepareFunctionWrite _ => ""
  | .contractRead => "Read"
  | .contractWrite | .prepareContractWrite => "Write"
  | .contractEvent => "Event"
  | .itemEvent _ => "On"

/-- The name of the function or event that a kind brings along, empty if it brings none. -/
def Kind.base (kind : Kind) : String := kind.base?.getD ""

/-- The fixed words of a kind, with two texts in the places of the contract's name and of the name
that the kind brings along. -/
def Kind.around (kind : Kind) (contract base : String) : String :=
  kind.start ++ contract ++ kind.word ++ base

theorem Kind.hookName_eq_around (contract : String) (kind : Kind) :
    kind.hookName contract = kind.around (pascal contract) (pascal kind.base) := by
  have hnone : pascal "" = "" := rfl
  have hending : kind.ending = kind.word ++ pascal kind.base := by
    cases kind <;> simp [Kind.ending, Kind.word, Kind.base, Kind.base?, hnone]
  rw [kind.hookName_eq, Kind.around, hending, ← String.append_assoc]

theorem Kind.toList_around (kind : Kind) (contract base : String) :
    (kind.around contract base).toList =
      kind.start.toList ++ contract.toList ++ kind.word.toList ++ base.toList := by
  simp only [Kind.around, String.toList_append]

theorem Kind.start_mem (kind : Kind) : kind.start ∈ ["use", "usePrepare"] := by
  unfold Kind.start
  split <;> simp

theorem Kind.word_mem (kind : Kind) : kind.word ∈ ["", "Read", "Write", "Event", "On"] := by
  cases kind <;> simp [Kind.word]

theorem Kind.hookChars_words (kind : Kind) :
    (∀ c ∈ kind.start.toList, isHookChar c = true) ∧
      ∀ c ∈ kind.word.toList, isHookChar c = true := by
  have hstarts : ∀ t ∈ ["use", "usePrepare"], t.toList.all isHookChar = true := by decide
  have hwords : ∀ t ∈ ["", "Read", "Write", "Event", "On"], t.toList.all isHookChar = true := by
    decide
  exact ⟨List.all_eq_true.1 (hstarts _ kind.start_mem), List.all_eq_true.1 (hwords _ kind.word_mem)⟩

theorem Kind.hookChars_around (kind : Kind) {contract base : String}
    (hcontract : ∀ c ∈ contract.toList, isHookChar c = true)
    (hbase : ∀ c ∈ base.toList, isHookChar c = true) :
    ∀ c ∈ (kind.around contract base).toList, isHookChar c = true := by
  rw [Kind.toList_around]
  simp only [List.forall_mem_append]
  exact ⟨⟨⟨kind.hookChars_words.1, hcontract⟩, kind.hookChars_words.2⟩, hbase⟩

theorem Kind.use_prefix (kind : Kind) (contract : String) :
    "use".toList <+: (kind.hookName contract).toList := by
  have hstarts : ∀ t ∈ ["use", "usePrepare"], "use".toList <+: t.toList := by decide
  rw [Kind.hookName_eq_around, Kind.toList_around, List.append_assoc, List.append_assoc]
  exact (hstarts _ kind.start_mem).trans (List.prefix_append _ _)

/-- The lower case of a hook's name is that of the texts that it is made of. -/
theorem Kind.lower_hookName {contract : String} (hcontract : isName contract = true) {kind : Kind}
    (hbase : isName kind.base = true) :
    Text.lower (kind.hookName contract).toList =
      Text.lower (kind.around (squeezed contract) (squeezed kind.base)).toList := by
  have hspelled := kind.hookChars_around (fun _ hc => Text.isHookChar_of_mem_pascal hcontract hc)
    fun _ hc => Text.isHookChar_of_mem_pascal hbase hc
  have hsqueezed := kind.hookChars_around (fun _ hc => Text.isHookChar_of_mem_squeezed hcontract hc)
    fun _ hc => Text.isHookChar_of_mem_squeezed hbase hc
  rw [kind.hookName_eq_around, Text.lower_of_hookChars hspelled, Text.lower_of_hookChars hsqueezed,
    Kind.toList_around, Kind.toList_around]
  simp only [List.map_append, Text.map_toLower_pascal_of_isName hcontract,
    Text.map_toLower_pascal_of_isName hbase]

theorem Kind.isName_base {kind : Kind} (h : ∀ name ∈ kind.base?, isName name = true) :
    isName kind.base = true := by
  unfold Kind.base
  cases hbase : kind.base? with
  | none => exact Text.isName_empty
  | some name => exact h name hbase

/-- Two kinds with the same fixed words give one contract one name only where the names that they
bring along have the same letters, whatever their case. -/
theorem Kind.lower_base_eq {contract : String} {k l : Kind} (hstart : k.start = l.start)
    (hword : k.word = l.word) (hk : isName k.base = true) (hl : isName l.base = true)
    (h : k.hookName contract = l.hookName contract) :
    Text.lower (squeezed k.base).toList = Text.lower (squeezed l.base).toList := by
  rw [k.hookName_eq_around, l.hookName_eq_around, Kind.around, Kind.around, hstart, hword,
    String.append_right_inj] at h
  rw [Text.lower_of_hookChars fun _ hc => Text.isHookChar_of_mem_squeezed hk hc,
    Text.lower_of_hookChars fun _ hc => Text.isHookChar_of_mem_squeezed hl hc,
    ← Text.map_toLower_pascal_of_isName hk, ← Text.map_toLower_pascal_of_isName hl, h]

/-! ## The law -/

/-- For names of ASCII letters, digits, dollar signs and separators, the name of a hook starts with
`use` and has only letters, digits and dollar signs; but for case it is the fixed words of its kind
around the contract's name and the name that the kind brings along, both without their separators.
So for one contract and the same fixed words, two names that kinds bring along lead to one hook's
name only if they differ in case and separators at most. -/
theorem a_hook_is_named_by_the_letters_of_its_names {contract : String}
    (hcontract : isName contract = true) {kind : Kind}
    (hbase : ∀ name ∈ kind.base?, isName name = true) :
    "use".toList <+: (kind.hookName contract).toList ∧
    (∀ c ∈ (kind.hookName contract).toList, c.isAlphanum = true ∨ c = '$') ∧
    Text.lower (kind.hookName contract).toList =
      Text.lower (kind.around (squeezed contract) (squeezed kind.base)).toList ∧
    ∀ other : Kind, other.start = kind.start → other.word = kind.word →
      (∀ name ∈ other.base?, isName name = true) →
      other.hookName contract = kind.hookName contract →
      Text.lower (squeezed other.base).toList = Text.lower (squeezed kind.base).toList := by
  have hname := Kind.isName_base hbase
  refine ⟨kind.use_prefix contract, fun c hc => ?_, Kind.lower_hookName hcontract hname, ?_⟩
  · rw [kind.hookName_eq_around] at hc
    have hchar := kind.hookChars_around
      (fun _ hc => Text.isHookChar_of_mem_pascal hcontract hc)
      (fun _ hc => Text.isHookChar_of_mem_pascal hname hc) c hc
    simpa [isHookChar] using hchar
  · intro other hstart hword hother h
    exact Kind.lower_base_eq hstart hword (Kind.isName_base hother) hname h

/-- The hook that reads the total supply of a token has the letters of both names, and that of
`total_supply`, which has them as well, has the same name. -/
theorem the_total_supply_of_a_token_keeps_its_letters :
    Text.lower ((Kind.functionRead "totalSupply").hookName "ERC-20").toList =
        "useerc20totalsupply".toList ∧
    Text.lower (squeezed "total_supply").toList = Text.lower (squeezed "totalSupply").toList := by
  have hcontract : isName "ERC-20" = true := by decide
  have hbase : ∀ name ∈ (Kind.functionRead "totalSupply").base?, isName name = true := by
    rintro name ⟨⟩
    decide
  have hother : ∀ name ∈ (Kind.functionRead "total_supply").base?, isName name = true := by
    rintro name ⟨⟩
    decide
  have hname : (Kind.functionRead "total_supply").hookName "ERC-20" =
      (Kind.functionRead "totalSupply").hookName "ERC-20" := by decide
  have hletters : Text.lower ((Kind.functionRead "totalSupply").around (squeezed "ERC-20")
      (squeezed "totalSupply")).toList = "useerc20totalsupply".toList := by decide
  obtain ⟨-, -, hlower, hsame⟩ := a_hook_is_named_by_the_letters_of_its_names hcontract hbase
  exact ⟨hlower.trans hletters, hsame (.functionRead "total_supply") rfl rfl hother hname⟩

end Hook

end ContractHooks
