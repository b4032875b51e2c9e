-- The text of a fragment in a dialect has the names of the symbols that the fragment needs and
-- the dialect keeps. Other names of symbols it has only where the name of the hook, the name of a
-- constant, or the signature of what the hook is for has them.
import ContractHooks.Proofs.Hook.Given
import ContractHooks.Proofs.Hook.Import
import ContractHooks.Proofs.Hook.Symbols

namespace ContractHooks.Hook

open Text (HasWord IdentifierClass EndsOutside StartsOutside isAsciiPart hasWord_append hasWord_join
  endsOutside_append)

variable {k : IdentifierClass} {word : String}

/-! ## Texts side by side -/

theorem Adds.through {names texts more : List String} {text : String} (h : Adds k names texts text)
    (hmore : ∀ word ∈ Symbol.names, ∀ t ∈ texts, HasWord k t word →
      ∃ u ∈ more, HasWord k u word) : Adds k names more text where
  has := h.has
  only word hword hhas := by
    rcases h.only word hword hhas with hmem | ⟨t, ht, hhas⟩
    · exact .inl hmem
    · exact .inr (hmore word hword t ht hhas)

theorem Adds.append {m n texts : List String} {a b : String} (ha : Adds k m texts a)
    (hb : Adds k n texts b) (h : EndsOutside k.holds a.toList ∨ StartsOutside k.holds b.toList) :
    Adds k (m ++ n) texts (a ++ b) where
  has word hword hmem := by
    rw [hasWord_append h]
    exact (List.mem_append.1 hmem).imp (ha.has word hword) (hb.has word hword)
  only word hword hhas := by
    rw [hasWord_append h] at hhas
    rcases hhas with hhas | hhas
    · exact (ha.only word hword hhas).imp_left (List.mem_append_left n)
    · exact (hb.only word hword hhas).imp_left (List.mem_append_right m)

theorem Adds.congr {m n texts : List String} {text : String} (h : Adds k m texts text)
    (hmn : ∀ w, w ∈ m ↔ w ∈ n) : Adds k n texts text where
  has word hword hmem := h.has word hword ((hmn word).2 hmem)
  only word hword hhas := (h.only word hword hhas).imp_left (hmn word).1

/-- A text outside of words starts with none. -/
theorem startsOutside_of_head? {s : String} {c : Char} (h : s = "" ∨ s.toList.head? = some c)
    (hc : isAsciiPart c = false ∧ c.toNat < 128) : StartsOutside k.holds s.toList := by
  rintro d hd
  rcases h with rfl | h
  · cases hd
  · rw [h] at hd
    obtain rfl := Option.some.inj hd
    rw [k.ascii c hc.2]
    exact hc.1

theorem startsOutside_configType (l : Layout) (s : Slots) :
    StartsOutside k.holds (l.configType s).toList :=
  startsOutside_of_head? (.inr (head?_configType l s)) (by decide)

theorem endsOutside_fieldText (annotated : Bool) (p : Preset) :
    EndsOutside k.holds (p.fieldText annotated).toList :=
  endsOutside_append (by decide) (by decide) (by decide)

theorem typed_eq_weave (p : Parts) :
    p.typed = p.docComment ++ Text.weave
      ["export function ", "(\n  ", " = \x7b\x7d as any,\n) \x7b\n", "  return ", "(\x7b ",
       "...config \x7d", ")\n\x7d"]
      [p.hookName ++ p.typeParameters, "config" ++ p.configType, p.preamble,
       p.primitive ++ p.typeArguments, String.join (p.presets.map (Preset.fieldText true)),
       p.cast] := by
  -- The type of the config stands right behind the word, so the literal is cut before it.
  have hopen : "(\n  config" = "(\n  " ++ "config" := by decide
  rw [Parts.typed, hopen]
  simp only [Text.weave, String.append_assoc]

theorem untyped_eq_weave (p : Parts) :
    p.untyped = p.docComment ++ Text.weave
      ["export function ", "(\n  config = \x7b\x7d,\n) \x7b\n", "  return ", "(\x7b ",
       "...config \x7d" ++ ")\n\x7d"]
      [p.hookName, p.preamble, p.primitive,
       String.join (p.presets.map (Preset.fieldText false))] := by
  rw [Parts.untyped]
  simp only [Text.weave, String.append_assoc]

/-! ## The parts of a hook -/

section parts

variable (hook : Hook) (name : String) (target : Target)

/-- The texts that a hook under a name brings along. -/
def broughtTexts : List String := name :: givenTexts target hook.member

theorem adds_docComment :
    Adds k [hook.layout.primitive] (broughtTexts hook name target)
      (docComment hook.layout.primitive target hook.member) where
  has _ hword hmem := (hasWord_docComment hword _ _ _).2 (.inl (List.mem_singleton.1 hmem))
  only _ hword h := by
    rcases (hasWord_docComment hword _ _ _).1 h with rfl | ⟨m, hm, h⟩ | ⟨s, hs, h⟩
    · exact .inl (List.mem_singleton_self _)
    · exact .inr ⟨m.name, List.mem_cons_of_mem name (mention_name_mem hm),
        (mention_iff (through_symbol hword) m).1 h⟩
    · exact .inr ⟨s, List.mem_cons_of_mem name (signature_mem_givenTexts target hs), h⟩

theorem adds_hookName : Adds k [] (broughtTexts hook name target) name :=
  adds_text List.mem_cons_self

theorem adds_preamble :
    Adds k ((chainSymbols target).map Symbol.name) (broughtTexts hook name target)
      (chainLookup target) where
  has _ hword := (hasWord_chainLookup hword target).2
  only _ hword h := .inl ((hasWord_chainLookup hword target).1 h)

theorem adds_primitive :
    Adds k [hook.layout.primitive] (broughtTexts hook name target) hook.layout.primitive where
  has _ hword hmem := (hasWord_primitive hword _).2 (List.mem_singleton.1 hmem)
  only _ hword h := .inl (List.mem_singleton.2 ((hasWord_primitive hword _).1 h))

theorem adds_fields (annotated : Bool) :
    Adds k [] (broughtTexts hook name target)
      (String.join ((presets target hook.member).map (Preset.fieldText annotated))) where
  has _ _ h := by cases h
  only _ hword h := by
    rw [hasWord_join (by simp [endsOutside_fieldText])] at h
    obtain ⟨t, ht, h⟩ := h
    obtain ⟨p, hp, rfl⟩ := List.mem_map.1 ht
    exact .inr ⟨p.value.name, List.mem_cons_of_mem name (value_name_mem hp),
      (fieldText_iff (through_symbol hword) annotated p).1 h⟩

/-- An annotation brings along no texts but those of the hook. -/
theorem Adds.of_slots {names : List String} {text : String}
    (h : Adds k names (hook.slots name target).typeTexts text) :
    Adds k names (broughtTexts hook name target) text := by
  refine h.through fun word hword t ht hhas => ?_
  obtain ⟨u, hu, hhas⟩ := of_slot (through_symbol hword) ht hhas
  exact ⟨u, List.mem_cons_of_mem name hu, hhas⟩

/-! ## The text of a hook -/

/-- Without annotations a hook adds the names of what it calls. -/
theorem adds_untyped :
    Adds k (hook.layout.primitive :: (chainSymbols target).map Symbol.name)
      (broughtTexts hook name target) (hook.parts name target).untyped := by
  let fields := String.join ((presets target hook.member).map (Preset.fieldText false))
  have hbody : Adds k ((chainSymbols target).map Symbol.name ++ [hook.layout.primitive])
      (broughtTexts hook name target)
      (Text.weave ["export function ", "(\n  config = \x7b\x7d,\n) \x7b\n", "  return ", "(\x7b ",
        "...config \x7d" ++ ")\n\x7d"]
        [name, chainLookup target, hook.layout.primitive, fields]) := by
    refine adds_of_frame [] _
      [([], name), ((chainSymbols target).map Symbol.name, chainLookup target),
       ([hook.layout.primitive], hook.layout.primitive), ([], fields)]
      rfl rfl (by decide) ?_ (by simp)
    simp only [List.mem_cons, List.not_mem_nil, or_false, forall_eq_or_imp, forall_eq]
    exact ⟨adds_hookName .., adds_preamble .., adds_primitive .., adds_fields ..⟩
  rw [untyped_eq_weave]
  refine ((adds_docComment hook name target).append hbody
    (.inl (endsOutside_docComment _ _ _))).congr ?_
  simp [or_comm]

/-- The names of symbols in the text of a hook with its annotations. -/
def typedNames : List String :=
  hook.layout.primitive :: (chainSymbols target).map Symbol.name
    ++ hook.layout.boundNames ++ hook.layout.configNames ++ hook.layout.castNames

theorem adds_typed :
    Adds k (typedNames hook target) (broughtTexts hook name target)
      (hook.parts name target).typed := by
  let s := hook.slots name target
  let l := hook.layout
  let fields := String.join ((presets target hook.member).map (Preset.fieldText true))
  have hfunction : Adds k l.boundNames (broughtTexts hook name target)
      (name ++ l.typeParameters s) :=
    (adds_hookName hook name target).append ((adds_typeParameters l s).of_slots hook name target)
      (.inr (startsOutside_of_head? (head?_typeParameters l s) (by decide)))
  have hword : Adds k [] (broughtTexts hook name target) "config" :=
    adds_of_frame [] ["config"] [] rfl rfl (by decide) (by simp) (by simp)
  have hconfig : Adds k l.configNames (broughtTexts hook name target)
      ("config" ++ l.configType s) :=
    hword.append ((adds_configType l s).of_slots hook name target)
      (.inr (startsOutside_configType l s))
  have hcall : Adds k [l.primitive] (broughtTexts hook name target)
      (l.primitive ++ l.typeArguments s) :=
    (adds_primitive hook name target).append ((adds_typeArguments l s).of_slots hook name target)
      (.inr (startsOutside_of_head? (head?_typeArguments l s) (by decide)))
  have hbody : Adds k (l.boundNames ++ l.configNames ++ (chainSymbols target).map Symbol.name
        ++ [l.primitive] ++ l.castNames) (broughtTexts hook name target)
      (Text.weave ["export function ", "(\n  ", " = \x7b\x7d as any,\n) \x7b\n", "  return ",
        "(\x7b ", "...config \x7d", ")\n\x7d"]
        [name ++ l.typeParameters s, "config" ++ l.configType s, chainLookup target,
         l.primitive ++ l.typeArguments s, fields, l.argumentType s]) := by
    refine adds_of_frame [] _
      [(l.boundNames, name ++ l.typeParameters s), (l.configNames, "config" ++ l.configType s),
       ((chainSymbols target).map Symbol.name, chainLookup target),
       ([l.primitive], l.primitive ++ l.typeArguments s), ([], fields),
       (l.castNames, l.argumentType s)]
      rfl rfl (by decide) ?_ (by simp)
    simp only [List.mem_cons, List.not_mem_nil, or_false, forall_eq_or_imp, forall_eq]
    exact ⟨hfunction, hconfig, adds_preamble .., hcall, adds_fields ..,
      (adds_argumentType l s).of_slots hook name target⟩
  rw [typed_eq_weave]
  refine ((adds_docComment hook name target).append hbody
    (.inl (endsOutside_docComment _ _ _))).congr fun w => ?_
  simp only [typedNames, l, List.mem_append, List.mem_cons, List.not_mem_nil, or_false]
  tauto

/-! ## The text of a fragment -/

theorem mem_typedNames_iff (w : String) :
    w ∈ typedNames hook target ↔
      w ∈ ((hook.fragment name target).symbols.filter (Symbol.isKept true)).map Symbol.name := by
  have hlayout : hook.layout.primitive :: (hook.layout.boundNames ++ hook.layout.configNames
      ++ hook.layout.castNames) ⊆ (layoutSymbols hook.layout).map Symbol.name ∧
      (layoutSymbols hook.layout).map Symbol.name ⊆ hook.layout.primitive ::
        (hook.layout.boundNames ++ hook.layout.configNames ++ hook.layout.castNames) := by
    cases hook.layout <;> decide
  have hkept : (hook.fragment name target).symbols.filter (Symbol.isKept true) =
      layoutSymbols hook.layout ++ chainSymbols target :=
    List.filter_eq_self.2 fun s _ => by simp [Symbol.isKept]
  have hiff : w ∈ (layoutSymbols hook.layout).map Symbol.name ↔ w ∈ hook.layout.primitive ::
      (hook.layout.boundNames ++ hook.layout.configNames ++ hook.layout.castNames) :=
    ⟨fun h => hlayout.2 h, fun h => hlayout.1 h⟩
  rw [hkept, List.map_append, List.mem_append, hiff, typedNames]
  simp only [List.mem_append, List.mem_cons]
  tauto

theorem mem_untypedNames_iff (w : String) :
    w ∈ hook.layout.primitive :: (chainSymbols target).map Symbol.name ↔
      w ∈ ((hook.fragment name target).symbols.filter (Symbol.isKept false)).map Symbol.name := by
  have hlayout : ((layoutSymbols hook.layout).filter (Symbol.isKept false)).map Symbol.name =
      [hook.layout.primitive] := by
    cases hook.layout <;> decide
  have hchain : (chainSymbols target).filter (Symbol.isKept false) = chainSymbols target := by
    cases target <;> rfl
  have hsymbols : (hook.fragment name target).symbols =
      layoutSymbols hook.layout ++ chainSymbols target := rfl
  rw [hsymbols, List.filter_append, hchain, List.map_append, hlayout, List.singleton_append]

/-- The text of a fragment has the names of the symbols that the fragment needs and the dialect
keeps, and others only where a text that it brings along has them. -/
theorem adds_fragment (dialect : Dialect) :
    Adds k (((hook.fragment name target).symbols.filter
        (Symbol.isKept dialect.annotated)).map Symbol.name)
      (broughtTexts hook name target) ((hook.fragment name target).text dialect) := by
  cases dialect with
  | typescript =>
    rw [text_typescript]
    exact (adds_typed hook name target).congr (mem_typedNames_iff hook name target)
  | javascript =>
    rw [text_javascript]
    exact (adds_untyped hook name target).congr (mem_untypedNames_iff hook name target)

end parts

/-! ## Signatures -/

/-- A selector has no name of a symbol, as these all have a `t`. -/
theorem not_hasWord_selector (hword : word ∈ Symbol.names) (signature : String) :
    ¬ HasWord k (Abi.selector signature) word := by
  have hletter : ∀ w ∈ Symbol.names, 't' ∈ w.toList := by decide
  have hdigit : ∀ n : Fin 16, 't' ≠ Text.hexChar n.val := by decide
  intro h
  rcases Abi.mem_selector (h.subset (hletter word hword)) with hx | ⟨n, hn⟩
  · exact absurd hx (by decide)
  · exact hdigit n hn

theorem traceable_hasWord (hword : word ∈ Symbol.names) :
    Abi.Traceable fun text => HasWord k text word where
  toThrough := Text.through_hasWord hword (by decide)
  selector := not_hasWord_selector hword

end ContractHooks.Hook
