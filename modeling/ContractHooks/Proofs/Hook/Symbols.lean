-- The symbols that a hook needs are the ones that its code mentions: the hook that it wraps, the
-- types that its annotations name, and what looks up the chain. In the code of a hook no other
-- name of a symbol stands, but where a text that the contract brings along has one.
import ContractHooks.Proofs.Hook.Wording

namespace ContractHooks.Hook

open Text (HasWord IdentifierClass Through hasWord_of_frame not_hasWord_empty)

variable {k : IdentifierClass} {word : String}

/-! ## Slots -/

/-- The texts that a layout's annotations take from its slots. -/
def Slots.typeTexts (s : Slots) : List String :=
  [s.abiType, s.omitted, s.configExtra, s.memberType, s.memberBound, s.preparedOverrides,
   s.unpreparedOverrides]

section slots

variable {q : String → Prop} (h : Through wordingFrames q)
include h

theorem of_abiType {target : Target} (hq : q ("typeof " ++ abiReference target)) :
    ∃ n ∈ targetNames target, q n := by
  have htext : "typeof " ++ abiReference target =
      Text.weave ["typeof ", ""] [abiReference target] := by
    simp only [Text.weave, String.append_empty]
  rw [h.of_eq _ _ htext (by decide) rfl] at hq
  refine of_abiReference h ?_
  simpa using hq

theorem not_of_omittedKeys (ps : List Preset) :
    ¬ q (String.intercalate " | " (ps.map Preset.omitted)) := by
  rw [h.intercalate (by decide)]
  rintro ⟨t, ht, hq⟩
  obtain ⟨p, -, rfl⟩ := List.mem_map.1 ht
  exact not_of_omitted h p hq

theorem of_guards {ps : List Preset} (hq : q (String.intercalate "; " (ps.map Preset.guard))) :
    ∃ p ∈ ps, q p.value.name := by
  rw [h.intercalate (by decide)] at hq
  obtain ⟨t, ht, hq⟩ := hq
  obtain ⟨p, hp, rfl⟩ := List.mem_map.1 ht
  exact ⟨p, hp, of_guard h hq⟩

theorem of_overrides {m : Member} (hq : q (" & \x7b " ++ m.preset.guard ++ " \x7d")) :
    q m.name := by
  have htext : " & \x7b " ++ m.preset.guard ++ " \x7d" =
      Text.weave [" & \x7b ", " \x7d"] [m.preset.guard] := String.append_assoc ..
  rw [h.of_eq _ _ htext (by decide) rfl] at hq
  have hguard : q m.preset.guard := by simpa using hq
  exact of_guard h hguard

theorem not_of_memberParameter (hook : Hook) : ¬ q hook.memberParameter := by
  cases hook with
  | event o => exact h.literal "TEventName" (by decide)
  | contract => exact h.literal "TFunctionName" (by decide)
  | read o => exact h.literal "TFunctionName" (by decide)
  | prepareWrite o => exact h.literal "TFunctionName" (by decide)
  | write o => exact h.literal "TFunctionName" (by decide)

omit h in
/-- A slot that the member fills, if there is one, has nothing in it but what the member's name
has. -/
theorem of_memberSlot {target : Target} {member : Option Member} {other : String}
    {fill : Member → String} (hnone : ¬ q other) (hsome : ∀ m, q (fill m) → q m.name)
    (hq : q ((member.map fill).getD other)) : ∃ u ∈ givenTexts target member, q u := by
  cases member with
  | none => exact absurd hq hnone
  | some m => exact ⟨m.name, name_mem_givenTexts target m, hsome m hq⟩

/-- The slots of a hook have nothing in them but what the texts have that are brought along. -/
theorem of_slot {hook : Hook} {name : String} {target : Target} {t : String}
    (ht : t ∈ (hook.slots name target).typeTexts) (hq : q t) :
    ∃ u ∈ givenTexts target hook.member, q u := by
  have htarget (hq : ∃ n ∈ targetNames target, q n) :
      ∃ u ∈ givenTexts target hook.member, q u := by
    obtain ⟨n, hn, hq⟩ := hq
    exact ⟨n, mem_givenTexts_of_target hook.member hn, hq⟩
  have hquoted (m : Member) : q m.literal → q m.name := (singleQuoted_iff h m.name).1
  simp only [Slots.typeTexts, slots, List.mem_cons, List.not_mem_nil, or_false] at ht
  rcases ht with rfl | rfl | rfl | rfl | rfl | rfl | rfl
  · exact htarget (of_abiType h hq)
  · exact absurd hq (not_of_omittedKeys h _)
  · exact htarget (of_chainChoice h hq)
  · exact of_memberSlot (not_of_memberParameter h hook) hquoted hq
  · exact of_memberSlot (h.literal _ (by decide)) hquoted hq
  · exact of_memberSlot h.empty (fun m => of_overrides h) hq
  · obtain ⟨p, hp, hq⟩ := of_guards h hq
    exact ⟨p.value.name, value_name_mem hp, hq⟩

end slots

/-! ## Annotations -/

/-- The text has the given names of symbols, and others only where one of the texts has them. -/
structure Adds (k : IdentifierClass) (names texts : List String) (text : String) : Prop where
  has : ∀ word ∈ Symbol.names, word ∈ names → HasWord k text word
  only : ∀ word ∈ Symbol.names, HasWord k text word →
    word ∈ names ∨ ∃ t ∈ texts, HasWord k t word

theorem adds_empty (texts : List String) : Adds k [] texts "" where
  has _ _ h := by cases h
  only _ _ h := absurd h not_hasWord_empty

theorem adds_text {texts : List String} {t : String} (h : t ∈ texts) : Adds k [] texts t where
  has _ _ hnone := by cases hnone
  only _ _ ht := .inr ⟨t, h, ht⟩

theorem adds_abiType (s : Slots) : Adds k [] s.typeTexts s.abiType :=
  adds_text (by simp [Slots.typeTexts])

theorem adds_memberType (s : Slots) : Adds k [] s.typeTexts s.memberType :=
  adds_text (by simp [Slots.typeTexts])

/-- A text in a frame adds the names of the frame and those that its parts add. -/
theorem adds_of_frame {names texts : List String} {text : String} (words ls : List String)
    (vs : List (List String × String)) (htext : text = Text.weave ls (vs.map Prod.snd))
    (hlen : ls.length = vs.length + 1) (h : Text.isFrame Symbol.names words ls = true)
    (hvs : ∀ v ∈ vs, Adds k v.1 texts v.2)
    (hnames : ∀ w, w ∈ words ++ vs.flatMap Prod.fst ↔ w ∈ names) : Adds k names texts text := by
  have hlen : ls.length = (vs.map Prod.snd).length + 1 := by
    rw [hlen, List.length_map]
  constructor
  · intro word hword hmem
    rw [hasWord_of_frame hword words ls _ htext hlen h]
    rcases List.mem_append.1 ((hnames word).2 hmem) with hmem | hmem
    · exact .inl hmem
    · obtain ⟨v, hv, hmem⟩ := List.mem_flatMap.1 hmem
      exact .inr ⟨v.2, List.mem_map_of_mem hv, (hvs v hv).has word hword hmem⟩
  · intro word hword hhas
    rw [hasWord_of_frame hword words ls _ htext hlen h] at hhas
    rcases hhas with hmem | ⟨t, ht, hhas⟩
    · exact .inl ((hnames word).1 (List.mem_append_left _ hmem))
    · obtain ⟨v, hv, rfl⟩ := List.mem_map.1 ht
      refine ((hvs v hv).only word hword hhas).imp_left fun hmem => ?_
      exact (hnames word).1 (List.mem_append_right _ (List.mem_flatMap.2 ⟨v, hv, hmem⟩))

theorem adds_configName (l : Layout) (texts : List String) :
    Adds k [l.configName] texts l.configName where
  has _ hword hmem := (hasWord_configName hword l).2 (List.mem_singleton.1 hmem)
  only _ hword h := .inl (List.mem_singleton.2 ((hasWord_configName hword l).1 h))

/-- The type of what the wrapped hook takes adds its own name. -/
theorem adds_argument (l : Layout) (s : Slots) :
    Adds k [l.configName] s.typeTexts (l.argument s) := by
  have hconfig := adds_configName (k := k) l s.typeTexts
  have habi := adds_abiType (k := k) s
  have hmember := adds_memberType (k := k) s
  cases l with
  | contract =>
    refine adds_of_frame [] ["", "<", ">"]
      [([Layout.contract.configName], Layout.contract.configName), ([], s.abiType)]
      ?_ rfl (by decide) (by simp [hconfig, habi]) (by simp)
    simp only [Layout.argument, List.map_cons, List.map_nil, Text.weave, String.append_assoc,
      String.empty_append]
  | read =>
    refine adds_of_frame [] ["", "<", ", TFunctionName, TSelectData>"]
      [([Layout.read.configName], Layout.read.configName), ([], s.abiType)]
      ?_ rfl (by decide) (by simp [hconfig, habi]) (by simp)
    simp only [Layout.argument, List.map_cons, List.map_nil, Text.weave, String.append_assoc,
      String.empty_append]
  | prepareWrite =>
    refine adds_of_frame [] ["", "<", ", ", ">"]
      [([Layout.prepareWrite.configName], Layout.prepareWrite.configName), ([], s.abiType),
       ([], s.memberType)]
      ?_ rfl (by decide) (by simp [hconfig, habi, hmember]) (by simp)
    simp only [Layout.argument, List.map_cons, List.map_nil, Text.weave, String.append_assoc,
      String.empty_append]
  | write =>
    refine adds_of_frame [] ["", "<TMode, ", ", ", ">"]
      [([Layout.write.configName], Layout.write.configName), ([], s.abiType), ([], s.memberType)]
      ?_ rfl (by decide) (by simp [hconfig, habi, hmember]) (by simp)
    simp only [Layout.argument, List.map_cons, List.map_nil, Text.weave, String.append_assoc,
      String.empty_append]
  | event =>
    refine adds_of_frame [] ["", "<", ", ", ">"]
      [([Layout.event.configName], Layout.event.configName), ([], s.abiType), ([], s.memberType)]
      ?_ rfl (by decide) (by simp [hconfig, habi, hmember]) (by simp)
    simp only [Layout.argument, List.map_cons, List.map_nil, Text.weave, String.append_assoc,
      String.empty_append]

/-- The names of types that the type parameters of a layout mention. -/
def Layout.boundNames : Layout → List String
  | .read => [Symbol.readContractResult.name]
  | .write => [Symbol.writeContractMode.name]
  | .contract | .prepareWrite | .event => []

theorem adds_typeParameters (l : Layout) (s : Slots) :
    Adds k l.boundNames s.typeTexts (l.typeParameters s) := by
  have habi := adds_abiType (k := k) s
  have hbound : Adds k [] s.typeTexts s.memberBound := adds_text (by simp [Slots.typeTexts])
  have plain {text : String} (h : Text.isFrame Symbol.names [] [text] = true) :
      Adds k [] s.typeTexts text :=
    adds_of_frame [] [text] [] rfl rfl h (by simp) (by simp)
  cases l with
  | contract => exact adds_empty _
  | read =>
    refine adds_of_frame [Symbol.readContractResult.name]
      ["<\n  TFunctionName extends ", ",\n  TSelectData = ReadContractResult<",
       ", TFunctionName>,\n>"] [([], s.memberBound), ([], s.abiType)]
      ?_ rfl (by decide) (by simp [hbound, habi]) (by simp [Layout.boundNames])
    show "<\n  TFunctionName extends " ++ s.memberBound
      ++ ",\n  TSelectData = ReadContractResult<" ++ s.abiType ++ ", TFunctionName>,\n>" = _
    simp only [List.map_cons, List.map_nil, Text.weave, String.append_assoc]
  | prepareWrite =>
    show Adds k [] _ (if s.genericMember then "<TFunctionName extends string>" else "")
    cases s.genericMember with
    | true => exact plain (by decide)
    | false => exact adds_empty _
  | write =>
    show Adds k _ _ ("<\n" ++ (if s.genericMember then "  TFunctionName extends string,\n" else "")
      ++ "  TMode extends WriteContractMode = undefined,\n>")
    cases s.genericMember with
    | true =>
      exact adds_of_frame [Symbol.writeContractMode.name]
        ["<\n" ++ "  TFunctionName extends string,\n"
          ++ "  TMode extends WriteContractMode = undefined,\n>"] [] rfl rfl (by decide)
        (by simp) (by simp [Layout.boundNames])
    | false =>
      exact adds_of_frame [Symbol.writeContractMode.name]
        ["<\n" ++ "" ++ "  TMode extends WriteContractMode = undefined,\n>"] [] rfl rfl
        (by decide) (by simp) (by simp [Layout.boundNames])
  | event =>
    show Adds k [] _ (if s.genericMember then "<TEventName extends string>" else "")
    cases s.genericMember with
    | true => exact plain (by decide)
    | false => exact adds_empty _

/-- The names of types that the type of the config of a layout mentions. -/
def Layout.configNames : Layout → List String
  | .write => [Layout.write.configName, Symbol.prepareWriteContractResult.name]
  | l => [l.configName]

theorem adds_configType (l : Layout) (s : Slots) :
    Adds k l.configNames s.typeTexts (l.configType s) := by
  have hargument := adds_argument (k := k) l s
  have hconfig := adds_configName (k := k) l s.typeTexts
  have homitted : Adds k [] s.typeTexts s.omitted := adds_text (by simp [Slots.typeTexts])
  have hextra : Adds k [] s.typeTexts s.configExtra := adds_text (by simp [Slots.typeTexts])
  have plain : Adds k [l.configName] s.typeTexts
      (": Omit<" ++ l.argument s ++ ", " ++ s.omitted ++ ">" ++ s.configExtra) := by
    refine adds_of_frame [] [": Omit<", ", ", ">", ""]
      [([l.configName], l.argument s), ([], s.omitted), ([], s.configExtra)]
      ?_ rfl (by decide) (by simp [hargument, homitted, hextra]) (by simp)
    simp only [List.map_cons, List.map_nil, Text.weave, String.append_assoc, String.append_empty]
  cases l with
  | contract => exact plain
  | read => exact plain
  | prepareWrite => exact plain
  | event => exact plain
  | write =>
    have habi := adds_abiType (k := k) s
    have hmember := adds_memberType (k := k) s
    have hprepared : Adds k [] s.typeTexts s.preparedOverrides :=
      adds_text (by simp [Slots.typeTexts])
    have hunprepared : Adds k [] s.typeTexts s.unpreparedOverrides :=
      adds_text (by simp [Slots.typeTexts])
    -- The type of a write has two branches, and each names what the wrapped hook takes.
    refine adds_of_frame [Symbol.prepareWriteContractResult.name]
      [": (TMode extends 'prepared'\n    ? ", "<TMode, PrepareWriteContractResult<", ", ",
       ">['request']['abi'], ", ">", "\n    : ", " & \x7b ", " \x7d)", ""]
      [([Layout.write.configName], Layout.write.configName), ([], s.abiType), ([], s.memberType),
       ([], s.memberType), ([], s.preparedOverrides),
       ([Layout.write.configName], Layout.write.argument s), ([], s.unpreparedOverrides),
       ([], s.configExtra)] ?_ rfl (by decide)
      (by simp [hargument, hconfig, hextra, habi, hmember, hprepared, hunprepared])
      (by simp [Layout.configNames, or_comm])
    show ": (TMode extends 'prepared'\n    ? " ++ _ ++ _ ++ _ ++ _ ++ _ ++ _ ++ _ ++ _ ++ _ ++ _
      ++ _ ++ _ ++ _ ++ _ ++ _ = _
    simp only [List.map_cons, List.map_nil, Text.weave, String.append_assoc, String.append_empty]

theorem adds_typeArguments (l : Layout) (s : Slots) :
    Adds k [] s.typeTexts (l.typeArguments s) := by
  have habi := adds_abiType (k := k) s
  have hmember := adds_memberType (k := k) s
  cases l with
  | write =>
    refine adds_of_frame [] ["<TMode, ", ", ", ">"] [([], s.abiType), ([], s.memberType)]
      ?_ rfl (by decide) (by simp [habi, hmember]) (by simp)
    show "<TMode, " ++ s.abiType ++ ", " ++ s.memberType ++ ">" = _
    simp only [List.map_cons, List.map_nil, Text.weave, String.append_assoc]
  | contract => exact adds_empty _
  | read => exact adds_empty _
  | prepareWrite => exact adds_empty _
  | event => exact adds_empty _

/-- The names of types that the cast of a layout mentions. -/
def Layout.castNames : Layout → List String
  | .contract | .write => []
  | l => [l.configName]

theorem adds_argumentType (l : Layout) (s : Slots) :
    Adds k l.castNames s.typeTexts (l.argumentType s) := by
  have hargument := adds_argument (k := k) l s
  have cast : Adds k [l.configName] s.typeTexts (" as " ++ l.argument s) := by
    refine adds_of_frame [] [" as ", ""] [([l.configName], l.argument s)]
      ?_ rfl (by decide) (by simp [hargument]) (by simp)
    simp only [List.map_cons, List.map_nil, Text.weave, String.append_empty]
  cases l with
  | contract => exact adds_empty _
  | write =>
    exact adds_of_frame [] [" as any"] [] rfl rfl (by decide) (by simp)
      (by simp [Layout.castNames])
  | read => exact cast
  | prepareWrite => exact cast
  | event => exact cast

end ContractHooks.Hook
