-- What the texts that a hook is put together from have in them. A name stands in few of them by
-- itself: in the comment, in the annotations and where the chain is looked up. Everywhere else it
-- could only come in with the texts that a contract brings along, and so could a line end.
import ContractHooks.Proofs.Hook.Annotation
import ContractHooks.Proofs.Text.Frame

namespace ContractHooks

/-- The names of all symbols. -/
def Symbol.names : List String := Symbol.all.map Symbol.name

namespace Hook

open Text (HasWord IdentifierClass Through hasWord_of_frame hasWord_literal hasWord_join
  not_hasWord_empty endsOutside_append)

/-! ## The texts that are brought along -/

/-- The name that a value is made of. -/
def Value.name : Value → String
  | .constant name | .abiOf name | .addressOf name | .literal name => name

/-- The name that a comment mentions. -/
def Mention.name : Mention → String
  | .linked _ name | .shared name | .pinned _ name => name

/-- The names that a target brings along. -/
def targetNames : Target → List String
  | .abi abiName => [abiName]
  | .address abiName addressName => [abiName, addressName]
  | .deployments configName => [configName]

/-- The texts that a target and perhaps a member bring along. -/
def givenTexts (target : Target) (member : Option Member) : List String :=
  targetNames target ++ member.toList.flatMap fun m => m.name :: m.signatures

theorem mem_givenTexts_of_target {target : Target} (member : Option Member) {n : String}
    (h : n ∈ targetNames target) : n ∈ givenTexts target member :=
  List.mem_append_left _ h

theorem name_mem_givenTexts (target : Target) (m : Member) :
    m.name ∈ givenTexts target (some m) := by
  simp [givenTexts]

theorem signature_mem_givenTexts (target : Target) {member : Option Member} {s : String}
    (h : s ∈ (member.map Member.signatures).getD []) : s ∈ givenTexts target member := by
  cases member with
  | none => cases h
  | some m =>
    have hs : s ∈ m.signatures := h
    simp [givenTexts, hs]

theorem value_name_mem {target : Target} {member : Option Member} {p : Preset}
    (h : p ∈ presets target member) : p.value.name ∈ givenTexts target member := by
  rcases List.mem_append.1 h with h | h
  · refine mem_givenTexts_of_target member ?_
    cases target <;> simp only [targetPresets, List.mem_cons, List.not_mem_nil, or_false] at h <;>
      rcases h with rfl | rfl <;> simp [targetNames, Value.name]
  · cases member with
    | none => cases h
    | some m =>
      obtain rfl := List.mem_singleton.1 h
      exact name_mem_givenTexts target m

theorem mention_name_mem {target : Target} {member : Option Member} {m : Mention}
    (h : m ∈ mentions target member) : m.name ∈ givenTexts target member := by
  rcases List.mem_append.1 h with h | h
  · refine mem_givenTexts_of_target member ?_
    cases target <;> simp only [targetMentions, List.mem_cons, List.not_mem_nil, or_false] at h <;>
      rcases h with rfl | rfl <;> simp [targetNames, Mention.name]
  · cases member with
    | none => cases h
    | some p =>
      obtain rfl := List.mem_singleton.1 h
      exact name_mem_givenTexts target p

/-! ## Comments in parts -/

/-- The line of a signature. -/
def overloadLine (signature : String) : String := " * - " ++ signature ++ "\n"

/-- The list of signatures, if there are any. -/
def overloadList (signatures : List String) : String :=
  if signatures.isEmpty then ""
  else " *\n * Overloads:\n" ++ String.join (signatures.map overloadLine)

/-- A comment up to what ends it. -/
def commentBody (primitive : String) (target : Target) (member : Option Member) : String :=
  "/**\n * Wraps " ++ Mention.link primitive ++ " with "
    ++ series ((mentions target member).map Mention.text) ++ ".\n"
    ++ overloadList ((member.map Member.signatures).getD [])

theorem docComment_eq (primitive : String) (target : Target) (member : Option Member) :
    docComment primitive target member = commentBody primitive target member ++ " */\n" := rfl

/-! ## Frames -/

/-- The literals that presets and mentions are put together from. -/
def wordingFrames : List (List String) :=
  [["abi"], ["address"], ["functionName"], ["eventName"], ["never"], ["string"], ["TFunctionName"],
   ["TEventName"], ["'", "'"], ["__\x7b@link ", "\x7d__"], ["", ".abi"], ["", ".address[chainId]"],
   ["", ".address[chainId as keyof typeof ", ".address]"], ["", ": ", ", "], ["", "?: ", ""],
   ["typeof ", ""], [" & \x7b chainId?: keyof typeof ", ".address \x7d"], [" & \x7b ", " \x7d"],
   ["", " | ", ""], ["", "; ", ""], ["`", "` set to ", ""], ["`", "` set to `\"", "\"`"],
   ["`abi` and `address` taken from ", ""], ["", " and ", ""], ["", ", ", ""]]

variable {q : String → Prop} (h : Through wordingFrames q)
include h

theorem not_of_key (key : Key) : ¬ q key.word := by
  cases key with
  | abi => exact h.literal _ (by decide)
  | address => exact h.literal _ (by decide)
  | functionName => exact h.literal _ (by decide)
  | eventName => exact h.literal _ (by decide)

theorem singleQuoted_iff (name : String) : q (singleQuoted name) ↔ q name := by
  have htext : singleQuoted name = Text.weave ["'", "'"] [name] := String.append_assoc ..
  rw [h.of_eq _ _ htext (by decide) rfl]
  simp

theorem link_iff (name : String) : q (Mention.link name) ↔ q name := by
  have htext : Mention.link name = Text.weave ["__\x7b@link ", "\x7d__"] [name] :=
    String.append_assoc ..
  rw [h.of_eq _ _ htext (by decide) rfl]
  simp

theorem abiOf_iff (config : String) : q (config ++ ".abi") ↔ q config := by
  have htext : config ++ ".abi" = Text.weave ["", ".abi"] [config] := by
    simp only [Text.weave, String.empty_append]
  rw [h.of_eq _ _ htext (by decide) rfl]
  simp

/-! ## Presets -/

theorem valueText_iff (annotated : Bool) (v : Value) : q (v.text annotated) ↔ q v.name := by
  cases v with
  | constant name => exact Iff.rfl
  | abiOf config => exact abiOf_iff h config
  | addressOf config =>
    cases annotated with
    | true =>
      have htype : ".address[chainId as keyof typeof " =
          ".address[chainId" ++ " as keyof typeof " := by decide
      have hclose : ".address]" = ".address" ++ "]" := by decide
      have htext : Value.text true (.addressOf config) =
          Text.weave ["", ".address[chainId as keyof typeof ", ".address]"] [config, config] := by
        rw [htype, hclose]
        simp only [Value.text, Text.weave, String.append_assoc, String.empty_append, if_true]
      rw [h.of_eq _ _ htext (by decide) rfl]
      simp [Value.name]
    | false =>
      have hclose : ".address[chainId]" = ".address[chainId" ++ "]" := by decide
      have htext : Value.text false (.addressOf config) =
          Text.weave ["", ".address[chainId]"] [config] := by
        rw [hclose]
        simp only [Value.text, Text.weave, String.append_assoc, String.empty_append,
          Bool.false_eq_true, if_false]
      rw [h.of_eq _ _ htext (by decide) rfl]
      simp [Value.name]
  | literal name => exact singleQuoted_iff h name

theorem fieldText_iff (annotated : Bool) (p : Preset) :
    q (p.fieldText annotated) ↔ q p.value.name := by
  have htext : p.fieldText annotated =
      Text.weave ["", ": ", ", "] [p.key.word, p.value.text annotated] := by
    simp only [Preset.fieldText, Text.weave, String.append_assoc, String.empty_append]
  rw [h.of_eq _ _ htext (by decide) rfl]
  simp [not_of_key h, valueText_iff h]

theorem not_of_omitted (p : Preset) : ¬ q p.omitted := by
  rw [Preset.omitted, singleQuoted_iff h]
  exact not_of_key h p.key

/-- A key that is kept from callers has nothing in it but what a name has. -/
theorem of_guard {p : Preset} (hq : q p.guard) : q p.value.name := by
  obtain ⟨key, value⟩ := p
  have hguard (text : String) : q (key.word ++ "?: " ++ text) ↔ q text := by
    have htext : key.word ++ "?: " ++ text = Text.weave ["", "?: ", ""] [key.word, text] := by
      simp only [Text.weave, String.append_assoc, String.empty_append, String.append_empty]
    rw [h.of_eq _ _ htext (by decide) rfl]
    simp [not_of_key h]
  have never : ¬ q "never" := h.literal _ (by decide)
  cases value with
  | constant name => exact absurd ((hguard _).1 hq) never
  | abiOf config => exact absurd ((hguard _).1 hq) never
  | addressOf config => exact absurd ((hguard _).1 hq) never
  | literal name => exact (singleQuoted_iff h name).1 ((hguard _).1 hq)

/-! ## Targets -/

theorem of_abiReference {target : Target} (hq : q (abiReference target)) :
    ∃ n ∈ targetNames target, q n := by
  cases target with
  | abi abiName => exact ⟨abiName, List.mem_cons_self, hq⟩
  | address abiName addressName => exact ⟨abiName, List.mem_cons_self, hq⟩
  | deployments configName => exact ⟨configName, List.mem_cons_self, (abiOf_iff h configName).1 hq⟩

theorem of_chainChoice {target : Target} (hq : q (chainChoice target)) :
    ∃ n ∈ targetNames target, q n := by
  cases target with
  | abi abiName => exact absurd hq h.empty
  | address abiName addressName => exact absurd hq h.empty
  | deployments configName =>
    have htext : chainChoice (.deployments configName) =
        Text.weave [" & \x7b chainId?: keyof typeof ", ".address \x7d"] [configName] := by
      show " & \x7b chainId?: keyof typeof " ++ configName ++ ".address \x7d" = _
      simp only [Text.weave, String.append_assoc]
    rw [h.of_eq _ _ htext (by decide) rfl] at hq
    refine ⟨configName, List.mem_cons_self, ?_⟩
    simpa using hq

/-! ## Comments -/

theorem mention_iff (m : Mention) : q m.text ↔ q m.name := by
  cases m with
  | linked key constant =>
    have htext : Mention.text (.linked key constant) =
        Text.weave ["`", "` set to ", ""] [key.word, Mention.link constant] := by
      show "`" ++ key.word ++ "` set to " ++ Mention.link constant = _
      simp only [Text.weave, String.append_assoc, String.append_empty]
    rw [h.of_eq _ _ htext (by decide) rfl]
    simp [not_of_key h, link_iff h, Mention.name]
  | shared config =>
    have htext : Mention.text (.shared config) =
        Text.weave ["`abi` and `address` taken from ", ""] [Mention.link config] := by
      show "`abi` and `address` taken from " ++ Mention.link config = _
      simp only [Text.weave, String.append_empty]
    rw [h.of_eq _ _ htext (by decide) rfl]
    simp [link_iff h, Mention.name]
  | pinned key name =>
    have htext : Mention.text (.pinned key name) =
        Text.weave ["`", "` set to `\"", "\"`"] [key.word, name] := by
      show "`" ++ key.word ++ "` set to `\"" ++ name ++ "\"`" = _
      simp only [Text.weave, String.append_assoc]
    rw [h.of_eq _ _ htext (by decide) rfl]
    simp [not_of_key h, Mention.name]

theorem series_iff (ts : List String) : q (series ts) ↔ ∃ t ∈ ts, q t := by
  induction ts using series.induct with
  | case1 => simp [series, h.empty]
  | case2 s => simp [series]
  | case3 s t =>
    have htext : series [s, t] = Text.weave ["", " and ", ""] [s, t] := by
      simp only [series, Text.weave, String.append_assoc, String.empty_append, String.append_empty]
    exact h.of_eq _ _ htext (by decide) rfl
  | case4 s rest hone htwo ih =>
    have htext : series (s :: rest) = Text.weave ["", ", ", ""] [s, series rest] := by
      rw [series]
      · simp only [Text.weave, String.append_assoc, String.empty_append, String.append_empty]
      · exact hone
      · exact htwo
    rw [h.of_eq _ _ htext (by decide) rfl]
    simp [ih]

omit h

/-! ## Names of symbols -/

variable {k : IdentifierClass} {word : String}

theorem through_symbol (hword : word ∈ Symbol.names) :
    Through wordingFrames fun text => HasWord k text word :=
  Text.through_hasWord hword (by decide)

theorem hasWord_primitive (hword : word ∈ Symbol.names) (l : Layout) :
    HasWord k l.primitive word ↔ word = l.primitive := by
  rw [hasWord_literal hword [l.primitive] (by cases l <;> decide), List.mem_singleton]

theorem hasWord_configName (hword : word ∈ Symbol.names) (l : Layout) :
    HasWord k l.configName word ↔ word = l.configName := by
  rw [hasWord_literal hword [l.configName] (by cases l <;> decide), List.mem_singleton]

theorem hasWord_chainLookup (hword : word ∈ Symbol.names) (target : Target) :
    HasWord k (chainLookup target) word ↔ word ∈ (chainSymbols target).map Symbol.name := by
  cases target with
  | abi abiName => exact iff_of_false not_hasWord_empty List.not_mem_nil
  | address abiName addressName => exact iff_of_false not_hasWord_empty List.not_mem_nil
  | deployments configName =>
    show HasWord k ("  const \x7b chain \x7d = useNetwork()\n"
      ++ "  const chainId = config.chainId ?? chain?.id\n") word ↔ word ∈ [Symbol.useNetwork.name]
    exact hasWord_literal hword [Symbol.useNetwork.name] (by decide)

theorem endsOutside_overload (s : String) : Text.EndsOutside k.holds (overloadLine s).toList :=
  endsOutside_append (by decide) (by decide) (by decide)

theorem hasWord_overload (hword : word ∈ Symbol.names) (s : String) :
    HasWord k (overloadLine s) word ↔ HasWord k s word := by
  have htext : overloadLine s = Text.weave [" * - ", "\n"] [s] := String.append_assoc ..
  rw [hasWord_of_frame hword [] _ _ htext rfl (by decide)]
  simp

theorem hasWord_overloadList (hword : word ∈ Symbol.names) (signatures : List String) :
    HasWord k (overloadList signatures) word ↔ ∃ s ∈ signatures, HasWord k s word := by
  unfold overloadList
  by_cases hnone : signatures = []
  · simp [hnone, not_hasWord_empty]
  · have hends : ∀ t ∈ signatures.map overloadLine, Text.EndsOutside k.holds t.toList := by
      intro t ht
      obtain ⟨s, -, rfl⟩ := List.mem_map.1 ht
      exact endsOutside_overload s
    have htext : " *\n * Overloads:\n" ++ String.join (signatures.map overloadLine) =
        Text.weave [" *\n * Overloads:\n", ""] [String.join (signatures.map overloadLine)] := by
      simp only [Text.weave, String.append_empty]
    rw [if_neg (by simpa using hnone), hasWord_of_frame hword [] _ _ htext rfl (by decide)]
    simp [hasWord_join hends, hasWord_overload hword]

/-- A comment has the name of the hook that is wrapped, and the words of what it mentions and of
the signatures that it lists. -/
theorem hasWord_docComment (hword : word ∈ Symbol.names) (l : Layout) (target : Target)
    (member : Option Member) :
    HasWord k (docComment l.primitive target member) word ↔
      word = l.primitive ∨ (∃ m ∈ mentions target member, HasWord k m.text word) ∨
        ∃ s ∈ (member.map Member.signatures).getD [], HasWord k s word := by
  have hthrough := through_symbol (k := k) hword
  have htext : docComment l.primitive target member =
      Text.weave ["/**\n * Wraps ", " with ", ".\n", " */\n"]
        [Mention.link l.primitive, series ((mentions target member).map Mention.text),
          overloadList ((member.map Member.signatures).getD [])] := by
    rw [docComment_eq, commentBody]
    simp only [Text.weave, String.append_assoc]
  rw [hasWord_of_frame hword [] _ _ htext rfl (by decide)]
  simp [link_iff hthrough, hasWord_primitive hword, series_iff hthrough,
    hasWord_overloadList hword]

theorem endsOutside_docComment (primitive : String) (target : Target) (member : Option Member) :
    Text.EndsOutside k.holds (docComment primitive target member).toList := by
  rw [docComment_eq]
  exact endsOutside_append (by decide) (by decide) (by decide)

end Hook

end ContractHooks
