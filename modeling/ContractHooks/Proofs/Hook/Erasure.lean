-- The text of a hook in both dialects, spelled out. They fill one frame: TypeScript with the
-- annotations of the hook, each of them written in full, and JavaScript with none.
import ContractHooks.Proofs.Hook.Presets

namespace ContractHooks.Hook

/-! ## Annotations -/

/-- The annotations of a hook by their places: behind its name, behind `config`, behind the default
value of that, behind the hook that is called, behind the object that this is given, and behind the
chain that an address is looked up by. -/
structure Annotations where
  typeParameters : String
  configType : String
  defaultCast : String
  typeArguments : String
  argumentCast : String
  chainCast : String

/-- No annotations. -/
def Annotations.none : Annotations := ⟨"", "", "", "", "", ""⟩

/-- The type of the interface of a target. -/
def interfaceType : Target → String
  | .abi abiName => "typeof " ++ abiName
  | .address abiName _ => "typeof " ++ abiName
  | .deployments configName => "typeof " ++ configName ++ ".abi"

/-- The type of the name that a hook is for: the name itself in quotes, or a type for all names. -/
def nameType (hook : Hook) (other : String) : String :=
  match hook.pinned? with
  | some (_, name) => "'" ++ name ++ "'"
  | none => other

/-- The type of what the hook that is called takes. -/
def takenType (hook : Hook) (target : Target) : String :=
  match hook with
  | .contract => "UseContractConfig<" ++ interfaceType target ++ ">"
  | .read _ => "UseContractReadConfig<" ++ interfaceType target ++ ", TFunctionName, TSelectData>"
  | .prepareWrite _ =>
    "UsePrepareContractWriteConfig<" ++ interfaceType target ++ ", "
      ++ hook.nameType "TFunctionName" ++ ">"
  | .write _ =>
    "UseContractWriteConfig<TMode, " ++ interfaceType target ++ ", "
      ++ hook.nameType "TFunctionName" ++ ">"
  | .event _ =>
    "UseContractEventConfig<" ++ interfaceType target ++ ", " ++ hook.nameType "TEventName" ++ ">"

/-- The type parameters of a hook. -/
def parameterList (hook : Hook) (target : Target) : String :=
  match hook with
  | .contract => ""
  | .read _ =>
    "<\n  TFunctionName extends " ++ hook.nameType "string"
      ++ ",\n  TSelectData = ReadContractResult<" ++ interfaceType target ++ ", TFunctionName>,\n>"
  | .prepareWrite none => "<TFunctionName extends string>"
  | .prepareWrite (some _) => ""
  | .write none =>
    "<\n  TFunctionName extends string,\n  TMode extends WriteContractMode = undefined,\n>"
  | .write (some _) => "<\n  TMode extends WriteContractMode = undefined,\n>"
  | .event none => "<TEventName extends string>"
  | .event (some _) => ""

/-- The type of the config of a hook. -/
def annotatedConfig (hook : Hook) (target : Target) : String :=
  let settings := hook.settings target
  match hook with
  | .write functions =>
    let name := hook.nameType "TFunctionName"
    let prepared := match functions with
      | none => ""
      | some o => " & \x7b " ++ Setting.leftover (.functionName, o.name) ++ " \x7d"
    ": (TMode extends 'prepared'\n    ? UseContractWriteConfig<TMode, "
      ++ "PrepareWriteContractResult<" ++ interfaceType target ++ ", " ++ name
      ++ ">['request']['abi'], " ++ name ++ ">" ++ prepared
      ++ "\n    : " ++ hook.takenType target ++ " & \x7b " ++ leftovers settings ++ " \x7d)"
      ++ chainOf target settings
  | _ => ": Omit<" ++ hook.takenType target ++ ", " ++ keyUnion settings ++ ">"
      ++ chainOf target settings

/-- The type of the chain that the address of a target is looked up by. -/
def annotatedChain : Target → String
  | .deployments configName => " as keyof typeof " ++ configName ++ ".address"
  | _ => ""

/-- All annotations of a hook. -/
def annotations (hook : Hook) (target : Target) : Annotations where
  typeParameters := hook.parameterList target
  configType := hook.annotatedConfig target
  defaultCast := " as any"
  typeArguments := match hook with
    | .write _ =>
      "<TMode, " ++ interfaceType target ++ ", " ++ hook.nameType "TFunctionName" ++ ">"
    | _ => ""
  argumentCast := match hook with
    | .contract => ""
    | .write _ => " as any"
    | _ => " as " ++ hook.takenType target
  chainCast := annotatedChain target

/-! ## The frame -/

/-- The fields that a target presets, with what stands behind the chain. -/
def targetFieldsWith (target : Target) (chainCast : String) : String :=
  match target with
  | .abi abiName => "abi: " ++ abiName ++ ", "
  | .address abiName addressName => "abi: " ++ abiName ++ ", address: " ++ addressName ++ ", "
  | .deployments configName =>
    "abi: " ++ configName ++ ".abi, address: " ++ configName ++ ".address[chainId" ++ chainCast
      ++ "], "

/-- The field that presets the name of what a hook is for, if it is for one. -/
def pinnedField (hook : Hook) : String :=
  match hook.pinned? with
  | some (key, name) => key.word ++ ": '" ++ name ++ "', "
  | none => ""

/-- The preset fields, with what stands behind the chain. -/
def presetFields (hook : Hook) (target : Target) (chainCast : String) : String :=
  targetFieldsWith target chainCast ++ hook.pinnedField

/-- The text of a hook under a name, with annotations in their places. -/
def sourceText (hook : Hook) (name : String) (target : Target) (a : Annotations) : String :=
  docComment hook.layout.primitive target hook.member
    ++ "export function " ++ name ++ a.typeParameters
    ++ "(\n  config" ++ a.configType ++ " = \x7b\x7d" ++ a.defaultCast ++ ",\n) \x7b\n"
    ++ chainLookup target ++ "  return " ++ hook.layout.primitive ++ a.typeArguments ++ "(\x7b "
    ++ hook.presetFields target a.chainCast ++ "...config \x7d" ++ a.argumentCast ++ ")\n\x7d"

/-! ## Slots -/

theorem abiType_eq (hook : Hook) (name : String) (target : Target) :
    (hook.slots name target).abiType = interfaceType target := by
  cases target with
  | abi abiName => rfl
  | address abiName addressName => rfl
  | deployments configName => exact (String.append_assoc ..).symm

theorem memberType_eq (hook : Hook) (name : String) (target : Target) :
    (hook.slots name target).memberType = hook.nameType hook.memberParameter := by
  unfold slots nameType
  rcases member_cases hook with ⟨hm, hp⟩ | ⟨key, n, signatures, -, hm, hp⟩ <;> rw [hm, hp] <;> rfl

theorem memberBound_eq (hook : Hook) (name : String) (target : Target) :
    (hook.slots name target).memberBound = hook.nameType "string" := by
  unfold slots nameType
  rcases member_cases hook with ⟨hm, hp⟩ | ⟨key, n, signatures, -, hm, hp⟩ <;> rw [hm, hp] <;> rfl

theorem argument_eq (hook : Hook) (name : String) (target : Target) :
    hook.layout.argument (hook.slots name target) = hook.takenType target := by
  have habi := hook.abiType_eq name target
  have hmember := hook.memberType_eq name target
  -- The name of the type and the bracket behind it are two literals there and one here.
  cases hook with
  | contract =>
    have hopen : "UseContractConfig<" = "UseContractConfig" ++ "<" := by decide
    show "UseContractConfig" ++ "<" ++ _ ++ ">" = "UseContractConfig<" ++ _ ++ ">"
    rw [hopen, habi]
  | read o =>
    have hopen : "UseContractReadConfig<" = "UseContractReadConfig" ++ "<" := by decide
    show "UseContractReadConfig" ++ "<" ++ _ ++ _ = "UseContractReadConfig<" ++ _ ++ _
    rw [hopen, habi]
  | prepareWrite o =>
    have hopen : "UsePrepareContractWriteConfig<" = "UsePrepareContractWriteConfig" ++ "<" := by
      decide
    show "UsePrepareContractWriteConfig" ++ "<" ++ _ ++ ", " ++ _ ++ ">" =
      "UsePrepareContractWriteConfig<" ++ _ ++ ", " ++ _ ++ ">"
    rw [hopen, habi, hmember]
    rfl
  | write o =>
    have hopen : "UseContractWriteConfig<TMode, " = "UseContractWriteConfig" ++ "<TMode, " := by
      decide
    show "UseContractWriteConfig" ++ "<TMode, " ++ _ ++ ", " ++ _ ++ ">" =
      "UseContractWriteConfig<TMode, " ++ _ ++ ", " ++ _ ++ ">"
    rw [hopen, habi, hmember]
    rfl
  | event o =>
    have hopen : "UseContractEventConfig<" = "UseContractEventConfig" ++ "<" := by decide
    show "UseContractEventConfig" ++ "<" ++ _ ++ ", " ++ _ ++ ">" =
      "UseContractEventConfig<" ++ _ ++ ", " ++ _ ++ ">"
    rw [hopen, habi, hmember]
    rfl

/-! ## Parts -/

theorem typeParameters_parts (hook : Hook) (name : String) (target : Target) :
    (hook.parts name target).typeParameters = hook.parameterList target := by
  cases hook with
  | contract => rfl
  | read o =>
    show "<\n  TFunctionName extends " ++ (slots (.read o) name target).memberBound ++ _
      ++ (slots (.read o) name target).abiType ++ _ = _
    rw [memberBound_eq, abiType_eq]
    rfl
  | prepareWrite o | write o | event o => cases o <;> rfl

theorem configType_eq_annotation (hook : Hook) (name : String) (target : Target) :
    (hook.parts name target).configType = hook.annotatedConfig target := by
  rw [configType_parts]
  unfold restrictedConfig
  dsimp only
  rw [argument_eq]
  cases hook with
  | contract | read o | prepareWrite o | event o => rfl
  | write o =>
    have hopen : ": (TMode extends 'prepared'\n    ? UseContractWriteConfig<TMode, "
        ++ "PrepareWriteContractResult<" = ": (TMode extends 'prepared'\n    ? "
        ++ "UseContractWriteConfig" ++ "<TMode, PrepareWriteContractResult<" := by decide
    unfold annotatedConfig
    rw [hopen, abiType_eq, memberType_eq]
    cases o <;> rfl

theorem typeArguments_parts (hook : Hook) (name : String) (target : Target) :
    (hook.parts name target).typeArguments = (hook.annotations target).typeArguments := by
  cases hook with
  | contract | read o | prepareWrite o | event o => rfl
  | write o =>
    show "<TMode, " ++ (slots (.write o) name target).abiType ++ ", "
      ++ (slots (.write o) name target).memberType ++ ">" = _
    rw [abiType_eq, memberType_eq]
    rfl

theorem cast_parts (hook : Hook) (name : String) (target : Target) :
    (hook.parts name target).cast = (hook.annotations target).argumentCast := by
  have hargument := hook.argument_eq name target
  cases hook with
  | contract | write o => rfl
  | read o | prepareWrite o | event o => exact congrArg (" as " ++ ·) hargument

theorem join_targetSettings (target : Target) (annotated : Bool) :
    String.join ((targetSettings target).map (Setting.field annotated target)) =
      targetFieldsWith target (if annotated then annotatedChain target else "") := by
  have habi : "abi: " = "abi" ++ ": " := by decide
  have haddress : ", address: " = ", " ++ ("address" ++ ": ") := by decide
  cases target with
  | abi abiName =>
    show String.join ["abi" ++ ": " ++ abiName ++ ", "] = "abi: " ++ abiName ++ ", "
    rw [habi, String.join_cons]
    exact String.append_empty
  | address abiName addressName =>
    show String.join ["abi" ++ ": " ++ abiName ++ ", ", "address" ++ ": " ++ addressName ++ ", "] =
      "abi: " ++ abiName ++ ", address: " ++ addressName ++ ", "
    rw [habi, haddress]
    simp only [String.join_cons, String.join_nil, String.append_assoc, String.append_empty]
  | deployments configName =>
    have hopen : ".abi, address: " = ".abi" ++ (", " ++ ("address" ++ ": ")) := by decide
    have hclose : "], " = "]" ++ ", " := by decide
    have hwith (cast : String) :
        String.join ["abi" ++ ": " ++ (configName ++ ".abi") ++ ", ",
          "address" ++ ": " ++ (configName ++ ".address[chainId" ++ cast ++ "]") ++ ", "] =
        "abi: " ++ configName ++ ".abi, address: " ++ configName ++ ".address[chainId" ++ cast
          ++ "], " := by
      rw [habi, hopen, hclose]
      simp only [String.join_cons, String.join_nil, String.append_assoc, String.append_empty]
    cases annotated
    · exact hwith ""
    · exact hwith (annotatedChain (.deployments configName))

theorem join_pinned (hook : Hook) (target : Target) (annotated : Bool) :
    String.join (hook.pinned?.toList.map (Setting.field annotated target)) = hook.pinnedField := by
  have hopen : ": '" = ": " ++ "'" := by decide
  have hclose : "', " = "'" ++ ", " := by decide
  have hquoted (key n : String) :
      String.join [key ++ ": " ++ ("'" ++ n ++ "'") ++ ", "] = key ++ ": '" ++ n ++ "', " := by
    rw [hopen, hclose]
    simp only [String.join_cons, String.join_nil, String.append_assoc, String.append_empty]
  unfold pinnedField
  rcases member_cases hook with ⟨-, hp⟩ | ⟨key, n, signatures, rfl | rfl, -, hp⟩
  · rw [hp]
    rfl
  · rw [hp]
    exact hquoted "functionName" n
  · rw [hp]
    exact hquoted "eventName" n

theorem fields_eq_presetFields (hook : Hook) (name : String) (target : Target) (dialect : Dialect) :
    (hook.parts name target).fields dialect =
      hook.presetFields target (if dialect.annotated then annotatedChain target else "") := by
  rw [fields_parts]
  unfold objectFields settings presetFields
  rw [List.map_append, String.join_append, join_targetSettings, join_pinned]

/-! ## Texts -/

/-- A hook is written with all its annotations in TypeScript, and with none in JavaScript. -/
theorem text_eq_sourceText (hook : Hook) (name : String) (target : Target) (dialect : Dialect) :
    (hook.fragment name target).text dialect = hook.sourceText name target
      (match dialect with
        | .typescript => hook.annotations target
        | .javascript => .none) := by
  rw [text_eq_function, Parts.function, fields_eq_presetFields]
  unfold Parts.head Parts.opening Parts.closing Parts.annotation sourceText
  rw [typeParameters_parts, configType_eq_annotation, typeArguments_parts, cast_parts]
  cases dialect with
  | typescript =>
    simp only [Dialect.annotated, if_true, String.append_assoc]
    rfl
  | javascript =>
    simp only [Dialect.annotated, Bool.false_eq_true, if_false, String.append_empty,
      String.append_assoc]
    rfl

end ContractHooks.Hook
