-- A generated function in parts, its annotations told apart from the rest. With annotations
-- and without them the text of a fragment is put together from the same parts.
import ContractHooks.Hook.Fragment

namespace ContractHooks.Hook

/-! ## Parts -/

/-- The text of a value, with annotations or without. The chain that an address is looked up
by is annotated, nothing else is. -/
def Value.text (annotated : Bool) : Value → String
  | .constant name => name
  | .abiOf config => config ++ ".abi"
  | .addressOf config =>
    config ++ ".address[chainId"
      ++ (if annotated then " as keyof typeof " ++ config ++ ".address" else "") ++ "]"
  | .literal name => singleQuoted name

/-- A preset field, with annotations or without. -/
def Preset.fieldText (annotated : Bool) (p : Preset) : String :=
  p.key.word ++ ": " ++ p.value.text annotated ++ ", "

/-- The parts of a generated function. -/
structure Parts where
  docComment : String
  hookName : String
  preamble : String
  primitive : String
  presets : List Preset
  typeParameters : String
  configType : String
  typeArguments : String
  cast : String

namespace Parts

/-- The function with its annotations. -/
def typed (p : Parts) : String :=
  p.docComment ++ "export function " ++ p.hookName ++ p.typeParameters
    ++ "(\n  config" ++ p.configType ++ " = \x7b\x7d as any,\n) \x7b\n"
    ++ p.preamble ++ "  return " ++ p.primitive ++ p.typeArguments
    ++ "(\x7b " ++ String.join (p.presets.map (Preset.fieldText true)) ++ "...config \x7d"
    ++ p.cast ++ ")\n\x7d"

/-- The function without annotations. -/
def untyped (p : Parts) : String :=
  p.docComment ++ "export function " ++ p.hookName
    ++ "(\n  config = \x7b\x7d,\n) \x7b\n"
    ++ p.preamble ++ "  return " ++ p.primitive
    ++ "(\x7b " ++ String.join (p.presets.map (Preset.fieldText false)) ++ "...config \x7d"
    ++ ")\n\x7d"

end Parts

/-- The parts of a hook under a name. -/
def parts (hook : Hook) (name : String) (target : Target) : Parts :=
  let slots := hook.slots name target
  { docComment := Hook.docComment hook.layout.primitive target hook.member
    hookName := name
    preamble := chainLookup target
    primitive := hook.layout.primitive
    presets := Hook.presets target hook.member
    typeParameters := hook.layout.typeParameters slots
    configType := hook.layout.configType slots
    typeArguments := hook.layout.typeArguments slots
    cast := hook.layout.argumentType slots }

/-! ## Where annotations start -/

theorem head?_toList_append {text : String} {c : Char} (h : text.toList.head? = some c)
    (rest : String) : (text ++ rest).toList.head? = some c := by
  rw [String.toList_append, List.head?_append, h, Option.some_or]

/-- Type parameters start with a bracket, if there are any. -/
theorem head?_typeParameters (l : Layout) (s : Slots) :
    l.typeParameters s = "" ∨ (l.typeParameters s).toList.head? = some '<' := by
  unfold Layout.typeParameters
  cases l with
  | contract => exact .inl rfl
  | read =>
    refine .inr ?_
    simp only [String.append_assoc]
    exact head?_toList_append (by decide) _
  | write =>
    refine .inr ?_
    simp only [String.append_assoc]
    exact head?_toList_append (by decide) _
  | prepareWrite | event =>
    dsimp only
    split
    · exact .inr (by decide)
    · exact .inl rfl

/-- The type of the config starts with a colon. -/
theorem head?_configType (l : Layout) (s : Slots) :
    (l.configType s).toList.head? = some ':' := by
  unfold Layout.configType
  cases l with
  | contract | read | prepareWrite | write | event =>
    simp only [String.append_assoc]
    exact head?_toList_append (by decide) _

/-- Type arguments start with a bracket, if there are any. -/
theorem head?_typeArguments (l : Layout) (s : Slots) :
    l.typeArguments s = "" ∨ (l.typeArguments s).toList.head? = some '<' := by
  unfold Layout.typeArguments
  cases l with
  | write =>
    refine .inr ?_
    simp only [String.append_assoc]
    exact head?_toList_append (by decide) _
  | contract | read | prepareWrite | event => exact .inl rfl

/-! ## Text -/

theorem text_valueCode (annotated : Bool) (v : Value) :
    Code.text annotated v.code = v.text annotated := by
  cases v with
  | constant name => exact String.append_empty
  | abiOf config => exact String.append_empty
  | addressOf config =>
    cases annotated <;>
      simp [Value.code, Value.text, Code.text, Piece.text, String.append_assoc]
  | literal name => exact String.append_empty

theorem text_field (annotated : Bool) (p : Preset) :
    p.field.text annotated = p.fieldText annotated := by
  have hpieces : p.field = [.plain (p.key.word ++ ": ")] ++ p.value.code ++ [.plain ", "] := rfl
  rw [hpieces, Code.text_append, Code.text_append, text_valueCode]
  simp only [Code.text, Piece.text, Preset.fieldText, String.append_empty]

theorem text_fields (annotated : Bool) (presets : List Preset) :
    Code.text annotated (presets.flatMap Preset.field) =
      String.join (presets.map (Preset.fieldText annotated)) := by
  induction presets with
  | nil => rfl
  | cons p presets ih =>
    rw [List.flatMap_cons, Code.text_append, text_field, ih, List.map_cons, String.join_cons]

theorem text_code (annotated : Bool) (d : Declaration) (presets : List Preset)
    (h : d.fields = presets.flatMap Preset.field) :
    Code.text annotated d.code =
      let typed (s : String) : String := if annotated then s else ""
      d.docComment ++ "export function " ++ d.hookName ++ typed d.typeParameters
        ++ "(\n  config" ++ typed d.configType ++ " = \x7b\x7d" ++ typed " as any"
        ++ ",\n) \x7b\n" ++ d.preamble ++ "  return " ++ d.primitive ++ typed d.typeArguments
        ++ "(\x7b " ++ String.join (presets.map (Preset.fieldText annotated))
        ++ "...config \x7d" ++ typed d.argumentType ++ ")\n\x7d" := by
  unfold Declaration.code
  rw [Code.text_append, Code.text_append, h, text_fields]
  simp only [Code.text, Piece.text, String.append_assoc, String.append_empty]

theorem text_typescript (hook : Hook) (name : String) (target : Target) :
    (hook.fragment name target).text .typescript = (hook.parts name target).typed := by
  unfold Fragment.text fragment Parts.typed
  rw [text_code _ _ (Hook.presets target hook.member) rfl]
  simp only [Dialect.annotated, if_true, String.append_assoc]
  rfl

theorem text_javascript (hook : Hook) (name : String) (target : Target) :
    (hook.fragment name target).text .javascript = (hook.parts name target).untyped := by
  unfold Fragment.text fragment Parts.untyped
  rw [text_code _ _ (Hook.presets target hook.member) rfl]
  simp only [Dialect.annotated, Bool.false_eq_true, if_false, String.append_empty,
    String.append_assoc]
  rfl

end ContractHooks.Hook
