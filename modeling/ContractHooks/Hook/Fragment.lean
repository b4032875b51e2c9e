-- The hooks that a contract can have, the code of each, and how it is written in a dialect.
import ContractHooks.Hook.Dialect
import ContractHooks.Hook.Import
import ContractHooks.Hook.Kind
import ContractHooks.Hook.Layout
import ContractHooks.Hook.Preset

namespace ContractHooks

/-- A hook to be generated: of the contract, or of its functions or events, all of them or the
ones of one name. -/
inductive Hook
  | contract
  | read (functions : Option (Abi.Overloads Abi.Function))
  | prepareWrite (functions : Option (Abi.Overloads Abi.Function))
  | write (functions : Option (Abi.Overloads Abi.Function))
  | event (events : Option (Abi.Overloads Abi.Event))
  deriving Repr

namespace Hook

/-- The kind of a hook. -/
def kind : Hook → Kind
  | .contract => .contract
  | .read none => .contractRead
  | .read (some o) => .functionRead o.name
  | .prepareWrite none => .prepareContractWrite
  | .prepareWrite (some o) => .prepareFunctionWrite o.name
  | .write none => .contractWrite
  | .write (some o) => .functionWrite o.name
  | .event none => .contractEvent
  | .event (some o) => .itemEvent o.name

/-- The layout of a hook. -/
def layout : Hook → Layout
  | .contract => .contract
  | .read _ => .read
  | .prepareWrite _ => .prepareWrite
  | .write _ => .write
  | .event _ => .event

/-- What a hook is for, if it is for the functions or events of one name. -/
def member : Hook → Option Member
  | .contract => none
  | .read o | .prepareWrite o | .write o => o.map Member.ofFunctions
  | .event o => o.map Member.ofEvents

/-- The type parameter that stands for a name where none is pinned. -/
def memberParameter : Hook → String
  | .event _ => "TEventName"
  | _ => "TFunctionName"

/-- The slots of a hook. -/
def slots (hook : Hook) (name : String) (target : Target) : Slots :=
  let member := hook.member
  let presets := Hook.presets target member
  { docComment := Hook.docComment hook.layout.primitive target member
    hookName := name
    abiType := "typeof " ++ abiReference target
    omitted := String.intercalate " | " (presets.map Preset.omitted)
    fields := presets.flatMap Preset.field
    configExtra := chainChoice target
    preamble := chainLookup target
    genericMember := member.isNone
    memberType := (member.map Member.literal).getD hook.memberParameter
    memberBound := (member.map Member.literal).getD "string"
    preparedOverrides :=
      (member.map fun m => " & \x7b " ++ m.preset.guard ++ " \x7d").getD ""
    unpreparedOverrides := String.intercalate "; " (presets.map Preset.guard) }

/-- The symbols that the code of a layout mentions. -/
def layoutSymbols : Layout → List Symbol
  | .contract => [.useContract, .useContractConfig]
  | .read => [.useContractRead, .useContractReadConfig, .readContractResult]
  | .prepareWrite => [.usePrepareContractWrite, .usePrepareContractWriteConfig]
  | .write =>
    [.useContractWrite, .useContractWriteConfig, .writeContractMode, .prepareWriteContractResult]
  | .event => [.useContractEvent, .useContractEventConfig]

/-- The symbols that looking up the chain of a target mentions. -/
def chainSymbols : Target → List Symbol
  | .deployments _ => [.useNetwork]
  | _ => []

/-- The code of a hook, its name, and the symbols it needs. -/
structure Fragment where
  name : String
  code : Code
  symbols : List Symbol
  deriving Repr, DecidableEq

/-- The text of a fragment in a dialect. -/
def Fragment.text (dialect : Dialect) (f : Fragment) : String := f.code.text dialect.annotated

/-- The fragment of a hook under a name. -/
def fragment (hook : Hook) (name : String) (target : Target) : Fragment where
  name := name
  code := (hook.layout.declaration (hook.slots name target)).code
  symbols := layoutSymbols hook.layout ++ chainSymbols target

/-- A hook as it is written in a dialect: its name, its text, and the symbols it needs. -/
structure Written where
  name : String
  text : String
  symbols : List Symbol
  deriving Repr, DecidableEq

/-- Writes a hook in a dialect. -/
def emit (dialect : Dialect) (hook : Hook) (name : String) (target : Target) : Written :=
  let fragment := hook.fragment name target
  { name := fragment.name, text := fragment.text dialect, symbols := fragment.symbols }

end Hook

end ContractHooks
