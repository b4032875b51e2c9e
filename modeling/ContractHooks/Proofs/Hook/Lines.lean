-- The lines of a hook. Where no text that it brings along has a line end, its text has no blank
-- line, and just one of its lines starts a function: the one with the name of the hook.
import ContractHooks.Proofs.Hook.Function
import ContractHooks.Proofs.Hook.Symbols
import ContractHooks.Proofs.Text.Lines

namespace ContractHooks.Hook

open Text (OneLine Flows Opens flows_of_weave oneLine_append)

/-- The characters that the lines of a hook start with, but for the line of its name. -/
def startsInside (c : Char) : Bool := c == ' ' || c == '>' || c == ')' || c == '\x7d' || c == '/'

/-- The characters that the lines of a hook start with. -/
def startsLine (c : Char) : Bool := startsInside c || c == 'e'

/-! ## Texts in one line -/

theorem oneLine_empty : OneLine "" := by
  decide

theorem through_lineEnd : Text.Through wordingFrames fun text => ¬ OneLine text :=
  Text.through_lineEnd (by decide)

section given

variable {hook : Hook} {target : Target} (h : ∀ t ∈ givenTexts target hook.member, OneLine t)
include h

theorem oneLine_slot {name t : String} (ht : t ∈ (hook.slots name target).typeTexts) :
    OneLine t := by
  by_contra hnot
  obtain ⟨u, hu, hnot⟩ := of_slot through_lineEnd ht hnot
  exact hnot (h u hu)

theorem oneLine_fieldText (annotated : Bool) {p : Preset} (hp : p ∈ presets target hook.member) :
    OneLine (p.fieldText annotated) := by
  rw [← not_not (a := OneLine _), fieldText_iff through_lineEnd annotated p, not_not]
  exact h _ (value_name_mem hp)

theorem oneLine_mentions :
    OneLine (series ((mentions target hook.member).map Mention.text)) := by
  rw [← not_not (a := OneLine _), series_iff through_lineEnd]
  rintro ⟨t, ht, hnot⟩
  obtain ⟨m, hm, rfl⟩ := List.mem_map.1 ht
  exact (mention_iff through_lineEnd m).1 hnot (h _ (mention_name_mem hm))

end given

/-! ## The comment -/

/-- Behind a comment the list of signatures is closed with a line of its own. -/
theorem flows_overloads {signatures : List String} (h : ∀ s ∈ signatures, OneLine s) :
    Flows startsInside (String.join (signatures.map overloadLine) ++ " */") ∧
      Opens startsInside (String.join (signatures.map overloadLine) ++ " */") := by
  induction signatures with
  | nil => decide
  | cons s signatures ih =>
    obtain ⟨hflows, hopens⟩ := ih fun t ht => h t (List.mem_cons_of_mem s ht)
    have hs : OneLine (" * - " ++ s) := by
      rw [oneLine_append]
      exact ⟨by decide, h s List.mem_cons_self⟩
    have htext : String.join ((s :: signatures).map overloadLine) ++ " */" =
        " * - " ++ s ++ ("\n" ++ (String.join (signatures.map overloadLine) ++ " */")) := by
      rw [List.map_cons, String.join_cons, overloadLine]
      simp only [String.append_assoc]
    rw [htext]
    refine ⟨hs.flows.append (hflows.lineEnd hopens), ?_⟩
    unfold Opens
    rw [String.append_assoc, String.toList_append]
    rfl

/-- Up to its last character, a line end, a comment flows. -/
theorem flows_comment (l : Layout) {target : Target} {member : Option Member}
    (h : ∀ t ∈ givenTexts target member, OneLine t)
    (hmentions : OneLine (series ((mentions target member).map Mention.text))) :
    Flows startsInside (commentBody l.primitive target member ++ " */") := by
  have hprimitive : OneLine (Mention.link l.primitive) := by
    cases l <;> decide
  have hlist : Flows startsInside
        (overloadList ((member.map Member.signatures).getD []) ++ " */") ∧
      Opens startsInside (overloadList ((member.map Member.signatures).getD []) ++ " */") := by
    obtain ⟨hflows, hopens⟩ := flows_overloads fun s hs => h s (signature_mem_givenTexts target hs)
    unfold overloadList
    split
    · decide
    · have htext (t : String) : " *\n * Overloads:\n" ++ t ++ " */" =
          " *\n * Overloads:" ++ ("\n" ++ (t ++ " */")) := by
        have hopen : " *\n * Overloads:\n" = " *\n * Overloads:" ++ "\n" := by decide
        rw [hopen]
        simp only [String.append_assoc]
      rw [htext]
      refine ⟨Flows.append (by decide) (hflows.lineEnd hopens), ?_⟩
      unfold Opens
      rw [String.toList_append]
      rfl
  have htext : commentBody l.primitive target member ++ " */" =
      "/**\n * Wraps " ++ Mention.link l.primitive ++ " with "
        ++ series ((mentions target member).map Mention.text) ++ "."
        ++ ("\n" ++ (overloadList ((member.map Member.signatures).getD []) ++ " */")) := by
    have hstop : ".\n" = "." ++ "\n" := by decide
    rw [commentBody, hstop]
    simp only [String.append_assoc]
  have hopening : Flows startsInside ("/**\n * Wraps " ++ Mention.link l.primitive ++ " with "
      ++ series ((mentions target member).map Mention.text) ++ ".") := by
    refine flows_of_weave ["/**\n * Wraps ", " with ", "."]
      [Mention.link l.primitive, series ((mentions target member).map Mention.text)]
      ?_ (by decide) (by simp [hprimitive.flows, hmentions.flows])
    simp only [Text.weave, String.append_assoc]
  rw [htext]
  exact hopening.append (hlist.1.lineEnd hlist.2)

theorem opens_comment (primitive : String) (target : Target) (member : Option Member) :
    Opens startsInside (commentBody primitive target member ++ " */") := by
  unfold Opens commentBody
  simp only [String.append_assoc]
  rw [String.toList_append]
  rfl

/-! ## The annotations -/

section layout

variable {s : Slots} (h : ∀ t ∈ s.typeTexts, OneLine t)
include h

theorem oneLine_argument (l : Layout) : OneLine (l.argument s) := by
  have habi : OneLine s.abiType := h _ (by simp [Slots.typeTexts])
  have hmember : OneLine s.memberType := h _ (by simp [Slots.typeTexts])
  cases l with
  | contract | read =>
    simp only [Layout.argument, oneLine_append, habi, and_true]
    decide
  | prepareWrite | write | event =>
    simp only [Layout.argument, oneLine_append, habi, hmember, and_true]
    decide

theorem flows_typeParameters (l : Layout) : Flows startsInside (l.typeParameters s) := by
  have habi : OneLine s.abiType := h _ (by simp [Slots.typeTexts])
  have hbound : OneLine s.memberBound := h _ (by simp [Slots.typeTexts])
  cases l with
  | contract => exact oneLine_empty.flows
  | read =>
    refine flows_of_weave
      ["<\n  TFunctionName extends ", ",\n  TSelectData = ReadContractResult<",
       ", TFunctionName>,\n>"] [s.memberBound, s.abiType] ?_ (by decide) ?_
    · show "<\n  TFunctionName extends " ++ s.memberBound
        ++ ",\n  TSelectData = ReadContractResult<" ++ s.abiType ++ ", TFunctionName>,\n>" = _
      simp only [Text.weave, String.append_assoc]
    · simp [hbound.flows, habi.flows]
  | prepareWrite =>
    show Flows _ (if s.genericMember then "<TFunctionName extends string>" else "")
    cases s.genericMember <;> decide
  | write =>
    show Flows _ ("<\n" ++ (if s.genericMember then "  TFunctionName extends string,\n" else "")
      ++ "  TMode extends WriteContractMode = undefined,\n>")
    cases s.genericMember <;> decide
  | event =>
    show Flows _ (if s.genericMember then "<TEventName extends string>" else "")
    cases s.genericMember <;> decide

theorem flows_configType (l : Layout) : Flows startsInside (l.configType s) := by
  have hargument := oneLine_argument h l
  have habi : OneLine s.abiType := h _ (by simp [Slots.typeTexts])
  have homitted : OneLine s.omitted := h _ (by simp [Slots.typeTexts])
  have hextra : OneLine s.configExtra := h _ (by simp [Slots.typeTexts])
  have plain : Flows startsInside
      (": Omit<" ++ l.argument s ++ ", " ++ s.omitted ++ ">" ++ s.configExtra) := by
    refine flows_of_weave [": Omit<", ", ", ">", ""] [l.argument s, s.omitted, s.configExtra]
      ?_ (by decide) (by simp [hargument.flows, homitted.flows, hextra.flows])
    simp only [Text.weave, String.append_assoc, String.append_empty]
  cases l with
  | contract => exact plain
  | read => exact plain
  | prepareWrite => exact plain
  | event => exact plain
  | write =>
    have hconfig : OneLine Layout.write.configName := by decide
    have hmember : OneLine s.memberType := h _ (by simp [Slots.typeTexts])
    have hprepared : OneLine s.preparedOverrides := h _ (by simp [Slots.typeTexts])
    have hunprepared : OneLine s.unpreparedOverrides := h _ (by simp [Slots.typeTexts])
    refine flows_of_weave
      [": (TMode extends 'prepared'\n    ? ", "<TMode, PrepareWriteContractResult<", ", ",
       ">['request']['abi'], ", ">", "\n    : ", " & \x7b ", " \x7d)", ""]
      [Layout.write.configName, s.abiType, s.memberType, s.memberType, s.preparedOverrides,
       Layout.write.argument s, s.unpreparedOverrides, s.configExtra] ?_ (by decide)
      (by simp [hconfig.flows, habi.flows, hmember.flows, hprepared.flows, hargument.flows,
        hunprepared.flows, hextra.flows])
    show ": (TMode extends 'prepared'\n    ? " ++ _ ++ _ ++ _ ++ _ ++ _ ++ _ ++ _ ++ _ ++ _ ++ _
      ++ _ ++ _ ++ _ ++ _ ++ _ = _
    simp only [Text.weave, String.append_assoc, String.append_empty]

theorem oneLine_typeArguments (l : Layout) : OneLine (l.typeArguments s) := by
  have habi : OneLine s.abiType := h _ (by simp [Slots.typeTexts])
  have hmember : OneLine s.memberType := h _ (by simp [Slots.typeTexts])
  cases l with
  | write =>
    show OneLine ("<TMode, " ++ s.abiType ++ ", " ++ s.memberType ++ ">")
    simp only [oneLine_append, habi, hmember, and_true]
    decide
  | contract => exact oneLine_empty
  | read => exact oneLine_empty
  | prepareWrite => exact oneLine_empty
  | event => exact oneLine_empty

theorem oneLine_argumentType (l : Layout) : OneLine (l.argumentType s) := by
  have cast : OneLine (" as " ++ l.argument s) := by
    rw [oneLine_append]
    exact ⟨by decide, oneLine_argument h l⟩
  cases l with
  | contract => exact oneLine_empty
  | write => exact (by decide : OneLine " as any")
  | read => exact cast
  | prepareWrite => exact cast
  | event => exact cast

end layout

/-! ## The function -/

theorem flows_annotation {text : String} (h : Flows startsInside text) (dialect : Dialect) :
    Flows startsInside (Parts.annotation dialect text) := by
  unfold Parts.annotation
  split
  · exact h
  · exact oneLine_empty.flows

/-- Between the parameters of a function and its call stands at most where the chain is looked
up. -/
theorem flows_preamble (target : Target) :
    Flows startsInside (",\n) \x7b\n" ++ chainLookup target ++ "  return ") := by
  cases target with
  | abi abiName => exact (by decide : Flows startsInside (",\n) \x7b\n" ++ "" ++ "  return "))
  | address abiName addressName =>
    exact (by decide : Flows startsInside (",\n) \x7b\n" ++ "" ++ "  return "))
  | deployments configName =>
    show Flows startsInside (",\n) \x7b\n" ++ ("  const \x7b chain \x7d = useNetwork()\n"
      ++ "  const chainId = config.chainId ?? chain?.id\n") ++ "  return ")
    decide

theorem flows_behindName {hook : Hook} {target : Target}
    (h : ∀ t ∈ givenTexts target hook.member, OneLine t) (name : String) (dialect : Dialect) :
    Flows startsInside ((hook.parts name target).behindName dialect) := by
  have hslots : ∀ t ∈ (hook.slots name target).typeTexts, OneLine t := fun t ht =>
    oneLine_slot h ht
  have hfields : OneLine ((hook.parts name target).fields dialect) := by
    refine Text.oneLine_join fun t ht => ?_
    obtain ⟨p, hp, rfl⟩ := List.mem_map.1 ht
    exact oneLine_fieldText h _ hp
  have hprimitive : OneLine hook.layout.primitive := by
    cases hook.layout <;> decide
  have hparameters := flows_annotation (flows_typeParameters hslots hook.layout) dialect
  have hconfig := flows_annotation (flows_configType hslots hook.layout) dialect
  have hany := flows_annotation (by decide : Flows startsInside " as any") dialect
  have harguments := flows_annotation (oneLine_typeArguments hslots hook.layout).flows dialect
  have hcast := flows_annotation (oneLine_argumentType hslots hook.layout).flows dialect
  have hopening : Flows startsInside ((hook.parts name target).opening dialect) :=
    (hprimitive.flows.append harguments).append (by decide)
  have hclosing : Flows startsInside ((hook.parts name target).closing dialect) :=
    (Flows.append (by decide) hcast).append (by decide)
  have hcall := (hopening.append hfields.flows).append hclosing
  have hhead := (((hparameters.append (b := "(\n  config") (by decide)).append hconfig).append
    (b := " = \x7b\x7d") (by decide)).append hany
  have hbody := (hhead.append (flows_preamble target)).append hcall
  convert hbody using 1
  unfold Parts.behindName
  simp only [String.append_assoc]
  rfl

/-- Behind its name a function has type parameters or the bracket that opens its parameters. -/
def startsParameters (c : Char) : Bool := c == '(' || c == '<'

theorem opens_behindName (hook : Hook) (name : String) (target : Target) (dialect : Dialect) :
    Opens startsParameters ((hook.parts name target).behindName dialect) := by
  have hopen : "(\n  config" = "(" ++ "\n  config" := by decide
  have hannotation : Parts.annotation dialect (hook.parts name target).typeParameters = "" ∨
      (Parts.annotation dialect (hook.parts name target).typeParameters).toList.head? =
        some '<' := by
    unfold Parts.annotation
    split
    · exact head?_typeParameters _ _
    · exact .inl rfl
  unfold Parts.behindName
  simp only [String.append_assoc]
  rcases hannotation with h | h
  · rw [h, String.empty_append, hopen]
    simp only [String.append_assoc]
    exact Opens.append (by decide) _
  · unfold Opens
    rw [head?_toList_append h]
    rfl

/-! ## The text of a hook -/

/-- Whether a line starts with the words that export a function. -/
def declares (line : String) : Bool := "export function ".toList.isPrefixOf line.toList

theorem declares_eq_false {line : String} (h : Opens startsInside line) :
    declares line = false := by
  have hwords : "export function ".toList = 'e' :: "xport function ".toList := rfl
  unfold declares
  unfold Opens at h
  rw [hwords]
  cases hline : line.toList with
  | nil => rfl
  | cons c cs =>
    rw [hline] at h
    have hc : startsInside c = true := h
    have he : ('e' == c) = false := by
      rw [beq_eq_false_iff_ne]
      rintro rfl
      exact absurd hc (by decide)
    simp [List.isPrefixOf, he]

theorem declares_append (text : String) : declares ("export function " ++ text) = true := by
  unfold declares
  rw [String.toList_append]
  exact List.isPrefixOf_iff_prefix.2 (List.prefix_append _ _)

section text

variable {hook : Hook} {target : Target} (h : ∀ t ∈ givenTexts target hook.member, OneLine t)
  {name : String} (hname : OneLine name) (dialect : Dialect)
include h hname

/-- The text of a hook has no blank line, and does not end in a line end. -/
theorem flows_text : Flows startsLine ((hook.fragment name target).text dialect) := by
  have hline : ∀ c, startsInside c = true → startsLine c = true := by
    intro c hc
    simp [startsLine, hc]
  have hcomment := (flows_comment hook.layout h (oneLine_mentions h)).mono hline
  have hbehind := (flows_behindName h name dialect).mono hline
  have hhead : OneLine ("export function " ++ name) := by
    rw [oneLine_append]
    exact ⟨by decide, hname⟩
  have hfunction : Flows startsLine ((hook.parts name target).function dialect) := by
    rw [Parts.function_eq]
    exact hhead.flows.append hbehind
  have hopens : Opens startsLine ((hook.parts name target).function dialect) := by
    unfold Opens
    rw [Parts.function_eq, String.append_assoc, String.toList_append]
    rfl
  have hend : " */\n" = " */" ++ "\n" := by decide
  rw [text_eq_function, docComment_eq, hend, ← String.append_assoc, String.append_assoc]
  exact hcomment.append (hfunction.lineEnd hopens)

/-- One line of the text of a hook declares a function, that of the hook's name. -/
theorem filter_declares_lines :
    ∃ rest, (Text.lines ((hook.fragment name target).text dialect)).filter declares =
        ["export function " ++ name ++ rest] ∧ Opens startsParameters rest := by
  have hcomment := flows_comment hook.layout h (oneLine_mentions h)
  have hhead : OneLine ("export function " ++ name) := by
    rw [oneLine_append]
    exact ⟨by decide, hname⟩
  obtain ⟨rest, behind, hlines, hrest, hbehind⟩ := Text.lines_append_of_oneLine (by decide)
    hhead (flows_behindName h name dialect) (by decide) (opens_behindName hook name target dialect)
  have hbefore : ∀ line ∈ Text.lines (commentBody hook.layout.primitive target hook.member
      ++ " */"), declares line = false := fun line hline =>
    declares_eq_false (Text.opens_of_mem_lines (by decide) hcomment (opens_comment ..) hline)
  have hend : " */\n" = " */" ++ "\n" := by decide
  refine ⟨rest, ?_, hrest⟩
  rw [text_eq_function, docComment_eq, hend, ← String.append_assoc, Text.lines_append_lineEnd,
    Parts.function_eq]
  have hparts : (hook.parts name target).hookName = name := rfl
  rw [hparts, hlines, List.filter_append,
    List.filter_eq_nil_iff.2 fun line hline => by simp [hbefore line hline], List.nil_append,
    List.filter_cons, if_pos (by rw [String.append_assoc]; exact declares_append _),
    List.filter_eq_nil_iff.2 fun line hline => by simp [declares_eq_false (hbehind line hline)]]

end text

end ContractHooks.Hook
