-- What a hook presets: the interface and the address of its contract, and the name of the
-- function or event it is for. The same presets are written as fields, left out of the type of
-- the config and told in the comment.
import ContractHooks.Abi.Group
import ContractHooks.Contract.Target
import ContractHooks.Hook.Code

namespace ContractHooks.Hook

/-! ## Presets -/

/-- The keys that can be preset. -/
inductive Key
  | abi
  | address
  | functionName
  | eventName
  deriving Repr, DecidableEq

/-- The word for a key. -/
def Key.word : Key → String
  | .abi => "abi"
  | .address => "address"
  | .functionName => "functionName"
  | .eventName => "eventName"

/-- What a key is set to: a constant, the interface or the address on the current chain that a
config object holds, or a quoted name. -/
inductive Value
  | constant (name : String)
  | abiOf (config : String)
  | addressOf (config : String)
  | literal (name : String)
  deriving Repr, DecidableEq

/-- A name between single quotes. -/
def singleQuoted (name : String) : String := "'" ++ name ++ "'"

/-- The code of a value. -/
def Value.code : Value → Code
  | .constant name => [.plain name]
  | .abiOf config => [.plain (config ++ ".abi")]
  | .addressOf config =>
    [.plain (config ++ ".address[chainId"),
     .typed (" as keyof typeof " ++ config ++ ".address"),
     .plain "]"]
  | .literal name => [.plain (singleQuoted name)]

/-- A key and what it is set to. -/
structure Preset where
  key : Key
  value : Value
  deriving Repr, DecidableEq

namespace Preset

/-- The field that presets the key, with a comma behind it. -/
def field (p : Preset) : Code := .plain (p.key.word ++ ": ") :: p.value.code ++ [.plain ", "]

/-- The key as a member of a union of keys. -/
def omitted (p : Preset) : String := singleQuoted p.key.word

/-- The key as a member of a type that keeps callers from setting it to anything else. -/
def guard (p : Preset) : String :=
  p.key.word ++ "?: " ++ match p.value with
    | .literal name => singleQuoted name
    | _ => "never"

end Preset

/-! ## Members -/

/-- The function or event that a hook is for, with the signatures to tell apart what shares
its name. -/
structure Member where
  key : Key
  name : String
  signatures : List String
  deriving Repr, DecidableEq

namespace Member

/-- The functions of a name. -/
def ofFunctions (o : Abi.Overloads Abi.Function) : Member where
  key := .functionName
  name := o.name
  signatures :=
    if o.isOverloaded then
      o.members.map fun f => "`" ++ f.signature ++ "` (`" ++ f.selector ++ "`)"
    else []

/-- The events of a name. -/
def ofEvents (o : Abi.Overloads Abi.Event) : Member where
  key := .eventName
  name := o.name
  signatures := if o.isOverloaded then o.members.map fun e => "`" ++ e.signature ++ "`" else []

/-- The name as code. -/
def literal (m : Member) : String := singleQuoted m.name

/-- The preset of the name. -/
def preset (m : Member) : Preset := ⟨m.key, .literal m.name⟩

end Member

/-! ## Targets -/

/-- What a target presets. -/
def targetPresets : Target → List Preset
  | .abi abiName => [⟨.abi, .constant abiName⟩]
  | .address abiName addressName => [⟨.abi, .constant abiName⟩, ⟨.address, .constant addressName⟩]
  | .deployments configName => [⟨.abi, .abiOf configName⟩, ⟨.address, .addressOf configName⟩]

/-- What a hook presets for a target and perhaps a member. -/
def presets (target : Target) (member : Option Member) : List Preset :=
  targetPresets target ++ (member.map Member.preset).toList

/-- The interface of a target as code. -/
def abiReference : Target → String
  | .abi abiName | .address abiName _ => abiName
  | .deployments configName => configName ++ ".abi"

/-- What a target adds to the type of the config: the chain can be chosen. -/
def chainChoice : Target → String
  | .deployments configName =>
    " & \x7b chainId?: keyof typeof " ++ configName ++ ".address \x7d"
  | _ => ""

/-- What has to be known before the call: the chain, if the address hangs on it. -/
def chainLookup : Target → String
  | .deployments _ =>
    "  const \x7b chain \x7d = useNetwork()\n"
      ++ "  const chainId = config.chainId ?? chain?.id\n"
  | _ => ""

/-! ## Comments -/

/-- What a comment tells about presets: a key linked to its constant, the two keys that a
config object holds, or a key and its text. -/
inductive Mention
  | linked (key : Key) (constant : String)
  | shared (config : String)
  | pinned (key : Key) (name : String)
  deriving Repr, DecidableEq

namespace Mention

/-- A link of a comment. -/
def link (name : String) : String := "__\x7b@link " ++ name ++ "\x7d__"

/-- The words of a mention. -/
def text : Mention → String
  | .linked key constant => "`" ++ key.word ++ "` set to " ++ link constant
  | .shared config => "`abi` and `address` taken from " ++ link config
  | .pinned key name => "`" ++ key.word ++ "` set to `\"" ++ name ++ "\"`"

end Mention

/-- What a comment tells about a target. -/
def targetMentions : Target → List Mention
  | .abi abiName => [.linked .abi abiName]
  | .address abiName addressName => [.linked .abi abiName, .linked .address addressName]
  | .deployments configName => [.shared configName]

/-- What a comment tells about all presets. -/
def mentions (target : Target) (member : Option Member) : List Mention :=
  targetMentions target ++ (member.map fun m => Mention.pinned m.key m.name).toList

/-- Texts as a series: commas between them, and a word before the last. -/
def series : List String → String
  | [] => ""
  | [s] => s
  | [s, t] => s ++ " and " ++ t
  | s :: rest => s ++ ", " ++ series rest

/-- The comment of a hook that wraps a primitive. -/
def docComment (primitive : String) (target : Target) (member : Option Member) : String :=
  let signatures := (member.map Member.signatures).getD []
  "/**\n * Wraps " ++ Mention.link primitive ++ " with "
    ++ series ((mentions target member).map Mention.text) ++ ".\n"
    ++ (if signatures.isEmpty then ""
        else " *\n * Overloads:\n"
          ++ String.join (signatures.map fun s => " * - " ++ s ++ "\n"))
    ++ " */\n"

end ContractHooks.Hook
