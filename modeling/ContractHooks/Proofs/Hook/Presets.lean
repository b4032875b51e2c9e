-- What a hook presets, and where it says so. The object that it hands to the hook it wraps, its
-- comment, and the type of its config all go by one list of settings: the interface, the address if
-- the target has one, and the name of the function or event if the hook is for one.
import ContractHooks.Proofs.Hook.Function

namespace ContractHooks.Hook

/-! ## Settings -/

/-- A key that is preset, with the name that it is set by: of the constant that holds the value, or
of the function or event. -/
abbrev Setting := Key × String

/-- What a target presets. An object of deployments holds both the interface and the addresses. -/
def targetSettings : Target → List Setting
  | .abi abiName => [(.abi, abiName)]
  | .address abiName addressName => [(.abi, abiName), (.address, addressName)]
  | .deployments configName => [(.abi, configName), (.address, configName)]

/-- What a hook presets if it is for the functions or events of one name. -/
def pinned? : Hook → Option Setting
  | .contract => none
  | .read o | .prepareWrite o | .write o => o.map fun o => (.functionName, o.name)
  | .event o => o.map fun o => (.eventName, o.name)

/-- What a hook presets, in order. -/
def settings (hook : Hook) (target : Target) : List Setting :=
  targetSettings target ++ hook.pinned?.toList

namespace Setting

/-- What a key is set to, as code. Of an object of deployments it is a field, and of its addresses
the one on the current chain. -/
def expression (annotated : Bool) (target : Target) : Setting → String
  | (.abi, name) => if target matches .deployments _ then name ++ ".abi" else name
  | (.address, name) =>
    if target matches .deployments _ then
      name ++ ".address[chainId"
        ++ (if annotated then " as keyof typeof " ++ name ++ ".address" else "") ++ "]"
    else name
  | (.functionName, name) | (.eventName, name) => "'" ++ name ++ "'"

/-- The type that a key may still be given by callers: none, or that of the one name. -/
def remainder : Setting → String
  | (.abi, _) | (.address, _) => "never"
  | (.functionName, name) | (.eventName, name) => "'" ++ name ++ "'"

/-- What a comment says that a key is set to: a link to a constant, or a name. -/
def told : Setting → String
  | (.abi, name) | (.address, name) => "__\x7b@link " ++ name ++ "\x7d__"
  | (.functionName, name) | (.eventName, name) => "`\"" ++ name ++ "\"`"

/-- A key as a field of an object, with a comma behind it. -/
def field (annotated : Bool) (target : Target) (s : Setting) : String :=
  s.1.word ++ ": " ++ expression annotated target s ++ ", "

/-- A key as a field of a type, with what callers may still give it. -/
def leftover (s : Setting) : String := s.1.word ++ "?: " ++ remainder s

end Setting

/-! ## Places -/

/-- The settings as fields of an object. -/
def objectFields (annotated : Bool) (target : Target) (settings : List Setting) : String :=
  String.join (settings.map (Setting.field annotated target))

/-- The keys as a union of types. -/
def keyUnion (settings : List Setting) : String :=
  String.intercalate " | " (settings.map fun s => "'" ++ s.1.word ++ "'")

/-- The keys as fields of a type, with what callers may still give them. -/
def leftovers (settings : List Setting) : String :=
  String.intercalate "; " (settings.map Setting.leftover)

/-- What the type of the config adds for an address that hangs on the chain. -/
def chainOf (target : Target) (settings : List Setting) : String :=
  match target, settings with
  | .deployments _, _ :: second :: _ =>
    " & \x7b chainId?: keyof typeof " ++ second.2 ++ ".address \x7d"
  | _, _ => ""

/-- The type of the config. It is what the wrapped hook takes without the keys that are preset. A
write that was not prepared may still be given the name that is pinned, and one that was prepared
must be prepared for that name. -/
def restrictedConfig (hook : Hook) (name : String) (target : Target) (settings : List Setting) :
    String :=
  let slots := hook.slots name target
  let argument := hook.layout.argument slots
  match hook with
  | .write _ =>
    ": (TMode extends 'prepared'\n    ? " ++ hook.layout.configName
      ++ "<TMode, PrepareWriteContractResult<" ++ slots.abiType ++ ", " ++ slots.memberType
      ++ ">['request']['abi'], " ++ slots.memberType ++ ">"
      ++ ((hook.pinned?.map fun s => " & \x7b " ++ Setting.leftover s ++ " \x7d").getD "")
      ++ "\n    : " ++ argument ++ " & \x7b " ++ leftovers settings ++ " \x7d)"
      ++ chainOf target settings
  | _ => ": Omit<" ++ argument ++ ", " ++ keyUnion settings ++ ">" ++ chainOf target settings

/-! ## Every place goes by the settings -/

/-- What a hook is for and what it presets beyond its target go together. -/
theorem member_cases (hook : Hook) :
    (hook.member = none ∧ hook.pinned? = none) ∨
      ∃ key name signatures, (key = .functionName ∨ key = .eventName) ∧
        hook.member = some ⟨key, name, signatures⟩ ∧ hook.pinned? = some (key, name) := by
  cases hook with
  | contract => exact .inl ⟨rfl, rfl⟩
  | read o | prepareWrite o | write o =>
    cases o with
    | none => exact .inl ⟨rfl, rfl⟩
    | some o => exact .inr ⟨.functionName, o.name, _, .inl rfl, rfl, rfl⟩
  | event o =>
    cases o with
    | none => exact .inl ⟨rfl, rfl⟩
    | some o => exact .inr ⟨.eventName, o.name, _, .inr rfl, rfl, rfl⟩

/-- What is made of presets is made of settings, if it is for a target and for a name that is
pinned. -/
theorem map_presets {β : Type} {f : Preset → β} {g : Setting → β} (hook : Hook) (target : Target)
    (htarget : (targetPresets target).map f = (targetSettings target).map g)
    (hfunction : ∀ name, f ⟨.functionName, .literal name⟩ = g (.functionName, name))
    (hevent : ∀ name, f ⟨.eventName, .literal name⟩ = g (.eventName, name)) :
    (presets target hook.member).map f = (hook.settings target).map g := by
  unfold presets settings
  rw [List.map_append, List.map_append, htarget]
  rcases member_cases hook with ⟨hm, hp⟩ | ⟨key, name, signatures, rfl | rfl, hm, hp⟩
  · rw [hm, hp]
    rfl
  · rw [hm, hp]
    exact congrArg (_ ++ [·]) (hfunction name)
  · rw [hm, hp]
    exact congrArg (_ ++ [·]) (hevent name)

theorem fields_parts (hook : Hook) (name : String) (target : Target) (dialect : Dialect) :
    (hook.parts name target).fields dialect =
      objectFields dialect.annotated target (hook.settings target) := by
  have htarget : (targetPresets target).map (Preset.fieldText dialect.annotated) =
      (targetSettings target).map (Setting.field dialect.annotated target) := by
    cases target <;> rfl
  exact congrArg String.join (map_presets hook target htarget (fun _ => rfl) fun _ => rfl)

theorem omitted_slots (hook : Hook) (name : String) (target : Target) :
    (hook.slots name target).omitted = keyUnion (hook.settings target) := by
  have htarget : (targetPresets target).map Preset.omitted =
      (targetSettings target).map fun s => "'" ++ s.1.word ++ "'" := by
    cases target <;> rfl
  exact congrArg (String.intercalate " | ")
    (map_presets hook target htarget (fun _ => rfl) fun _ => rfl)

theorem unpreparedOverrides_slots (hook : Hook) (name : String) (target : Target) :
    (hook.slots name target).unpreparedOverrides = leftovers (hook.settings target) := by
  have htarget : (targetPresets target).map Preset.guard =
      (targetSettings target).map Setting.leftover := by
    cases target <;> rfl
  exact congrArg (String.intercalate "; ")
    (map_presets hook target htarget (fun _ => rfl) fun _ => rfl)

theorem preparedOverrides_slots (hook : Hook) (name : String) (target : Target) :
    (hook.slots name target).preparedOverrides =
      (hook.pinned?.map fun s => " & \x7b " ++ Setting.leftover s ++ " \x7d").getD "" := by
  unfold slots
  rcases member_cases hook with ⟨hm, hp⟩ | ⟨key, n, signatures, rfl | rfl, hm, hp⟩ <;>
    rw [hm, hp] <;> rfl

theorem chainChoice_eq (hook : Hook) (target : Target) :
    chainChoice target = chainOf target (hook.settings target) := by
  cases target <;> rfl

theorem configType_parts (hook : Hook) (name : String) (target : Target) :
    (hook.parts name target).configType =
      restrictedConfig hook name target (hook.settings target) := by
  unfold restrictedConfig
  rw [← omitted_slots hook name target, ← unpreparedOverrides_slots hook name target,
    ← preparedOverrides_slots hook name target, ← chainChoice_eq]
  cases hook with
  | contract | read o | prepareWrite o | write o | event o => rfl

end ContractHooks.Hook
