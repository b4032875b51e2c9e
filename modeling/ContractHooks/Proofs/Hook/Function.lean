-- The text of a hook: its comment, and the function behind it. The function hands the preset
-- fields, the rest of the config behind them, to the hook that it wraps.
import ContractHooks.Proofs.Hook.Wording

namespace ContractHooks.Hook

namespace Parts

/-- An annotation in a dialect, nothing where there are none. -/
def annotation (dialect : Dialect) (text : String) : String :=
  if dialect.annotated then text else ""

/-- The function up to the call of the hook that it wraps. -/
def head (dialect : Dialect) (p : Parts) : String :=
  "export function " ++ p.hookName ++ annotation dialect p.typeParameters
    ++ "(\n  config" ++ annotation dialect p.configType ++ " = \x7b\x7d"
    ++ annotation dialect " as any" ++ ",\n) \x7b\n" ++ p.preamble ++ "  return "

/-- The start of the call: the hook that is wrapped, and the opening of the object that it is
given. -/
def opening (dialect : Dialect) (p : Parts) : String :=
  p.primitive ++ annotation dialect p.typeArguments ++ "(\x7b "

/-- The end of the call, behind the preset fields, and of the function. -/
def closing (dialect : Dialect) (p : Parts) : String :=
  "...config \x7d" ++ annotation dialect p.cast ++ ")\n\x7d"

/-- The preset fields. -/
def fields (dialect : Dialect) (p : Parts) : String :=
  String.join (p.presets.map (Preset.fieldText dialect.annotated))

/-- The function of a hook, without its comment. -/
def function (dialect : Dialect) (p : Parts) : String :=
  p.head dialect ++ (p.opening dialect ++ p.fields dialect ++ p.closing dialect)

/-- What stands behind the name of the function. -/
def behindName (dialect : Dialect) (p : Parts) : String :=
  annotation dialect p.typeParameters ++ "(\n  config" ++ annotation dialect p.configType
    ++ " = \x7b\x7d" ++ annotation dialect " as any" ++ ",\n) \x7b\n" ++ p.preamble ++ "  return "
    ++ (p.opening dialect ++ p.fields dialect ++ p.closing dialect)

theorem function_eq (dialect : Dialect) (p : Parts) :
    p.function dialect = "export function " ++ p.hookName ++ p.behindName dialect := by
  unfold function head behindName
  simp only [String.append_assoc]

end Parts

theorem text_eq_function (hook : Hook) (name : String) (target : Target) (dialect : Dialect) :
    (hook.fragment name target).text dialect =
      docComment hook.layout.primitive target hook.member
        ++ (hook.parts name target).function dialect := by
  unfold Parts.function Parts.head Parts.opening Parts.fields Parts.closing Parts.annotation
  cases dialect with
  | typescript =>
    rw [text_typescript, Parts.typed]
    have hany : " = \x7b\x7d as any,\n) \x7b\n" = " = \x7b\x7d" ++ " as any" ++ ",\n) \x7b\n" := by
      decide
    rw [hany]
    simp only [Dialect.annotated, if_true, String.append_assoc]
    rfl
  | javascript =>
    rw [text_javascript, Parts.untyped]
    have hopen : "(\n  config = \x7b\x7d,\n) \x7b\n" =
        "(\n  config" ++ " = \x7b\x7d" ++ ",\n) \x7b\n" := by decide
    rw [hopen]
    simp only [Dialect.annotated, Bool.false_eq_true, if_false, String.append_empty,
      String.append_assoc]
    rfl

/-- The text of a hook starts with its comment. -/
theorem head?_text (hook : Hook) (name : String) (target : Target) (dialect : Dialect) :
    ((hook.fragment name target).text dialect).toList.head? = some '/' := by
  rw [text_eq_function, docComment_eq, commentBody]
  simp only [String.append_assoc]
  rw [String.toList_append]
  rfl

/-- The fields that a target presets. -/
def targetFields (dialect : Dialect) (target : Target) : String :=
  String.join ((targetPresets target).map (Preset.fieldText dialect.annotated))

/-- The name of a member is preset behind what the target presets, between quotes and with a comma
behind it. -/
theorem text_eq_of_member {hook : Hook} {m : Member} (hm : hook.member = some m) (name : String)
    (target : Target) (dialect : Dialect) :
    (hook.fragment name target).text dialect =
      docComment hook.layout.primitive target hook.member ++ (hook.parts name target).head dialect
        ++ (hook.parts name target).opening dialect ++ targetFields dialect target
        ++ m.key.word ++ ": "
        ++ (singleQuoted m.name ++ ", " ++ (hook.parts name target).closing dialect) := by
  have hfields : (hook.parts name target).fields dialect = targetFields dialect target
      ++ (m.key.word ++ ": " ++ singleQuoted m.name ++ ", ") := by
    show String.join ((presets target hook.member).map (Preset.fieldText dialect.annotated)) = _
    rw [hm, presets, List.map_append, String.join_append]
    exact congrArg (_ ++ ·) (by simp [Member.preset, Preset.fieldText, Value.text])
  rw [text_eq_function, Parts.function, hfields]
  simp only [String.append_assoc]

end ContractHooks.Hook
