-- The shape of a generated hook: a documented function that takes a config and hands it, with
-- some keys preset, to the hook it wraps. The five layouts differ in the hook they wrap and in
-- their annotations; the texts that a layout leaves open are its slots.
import ContractHooks.Error
import ContractHooks.Hook.Code

namespace ContractHooks.Hook

/-! ## Declarations -/

/-- A function that wraps a hook. The type parameters, the type of the config, the type
arguments and the type of the argument are annotations, as is a part of the preset fields. -/
structure Declaration where
  docComment : String
  hookName : String
  typeParameters : String
  configType : String
  preamble : String
  primitive : String
  typeArguments : String
  fields : Code
  argumentType : String
  deriving Repr, DecidableEq

/-- The code of a declaration. -/
def Declaration.code (d : Declaration) : Code :=
  [.plain (d.docComment ++ "export function " ++ d.hookName),
   .typed d.typeParameters,
   .plain "(\n  config",
   .typed d.configType,
   .plain " = \x7b\x7d",
   .typed " as any",
   .plain (",\n) \x7b\n" ++ d.preamble ++ "  return " ++ d.primitive),
   .typed d.typeArguments,
   .plain "(\x7b "]
  ++ d.fields ++
  [.plain "...config \x7d",
   .typed d.argumentType,
   .plain ")\n\x7d"]

/-! ## Layouts -/

/-- What a layout leaves open. -/
structure Slots where
  docComment : String
  hookName : String
  abiType : String
  omitted : String
  fields : Code
  configExtra : String
  preamble : String
  genericMember : Bool
  memberType : String
  memberBound : String
  preparedOverrides : String
  unpreparedOverrides : String
  deriving Repr, DecidableEq

/-- The five hooks that are wrapped. -/
inductive Layout
  | contract
  | read
  | prepareWrite
  | write
  | event
  deriving Repr, DecidableEq

namespace Layout

/-- The word for a layout. -/
def word : Layout → String
  | .contract => "contract"
  | .read => "read"
  | .prepareWrite => "prepare_write"
  | .write => "write"
  | .event => "event"

/-- Every layout. -/
def all : List Layout := [.contract, .read, .prepareWrite, .write, .event]

/-- The layout of a word. -/
def named (word : String) : Except Error Layout :=
  match all.find? fun l => l.word == word with
  | some l => .ok l
  | none => .error (.unknownLayout word)

/-- The hook that is wrapped. -/
def primitive : Layout → String
  | .contract => "useContract"
  | .read => "useContractRead"
  | .prepareWrite => "usePrepareContractWrite"
  | .write => "useContractWrite"
  | .event => "useContractEvent"

/-- The type of what the wrapped hook takes, without its arguments. -/
def configName : Layout → String
  | .contract => "UseContractConfig"
  | .read => "UseContractReadConfig"
  | .prepareWrite => "UsePrepareContractWriteConfig"
  | .write => "UseContractWriteConfig"
  | .event => "UseContractEventConfig"

/-- The type of what the wrapped hook takes, for the interface and the member of the slots. -/
def argument (l : Layout) (s : Slots) : String :=
  match l with
  | .contract => l.configName ++ "<" ++ s.abiType ++ ">"
  | .read => l.configName ++ "<" ++ s.abiType ++ ", TFunctionName, TSelectData>"
  | .prepareWrite | .event => l.configName ++ "<" ++ s.abiType ++ ", " ++ s.memberType ++ ">"
  | .write => l.configName ++ "<TMode, " ++ s.abiType ++ ", " ++ s.memberType ++ ">"

/-- The type parameters of the function. -/
def typeParameters (l : Layout) (s : Slots) : String :=
  match l with
  | .contract => ""
  | .read =>
    "<\n  TFunctionName extends " ++ s.memberBound ++ ",\n  TSelectData = ReadContractResult<"
      ++ s.abiType ++ ", TFunctionName>,\n>"
  | .prepareWrite => if s.genericMember then "<TFunctionName extends string>" else ""
  | .event => if s.genericMember then "<TEventName extends string>" else ""
  | .write =>
    "<\n" ++ (if s.genericMember then "  TFunctionName extends string,\n" else "")
      ++ "  TMode extends WriteContractMode = undefined,\n>"

/-- The type of the config: what the wrapped hook takes without the preset keys, or, for a
write, one of two types by the mode. -/
def configType (l : Layout) (s : Slots) : String :=
  match l with
  | .write =>
    ": (TMode extends 'prepared'\n    ? " ++ l.configName
      ++ "<TMode, PrepareWriteContractResult<" ++ s.abiType ++ ", " ++ s.memberType
      ++ ">['request']['abi'], " ++ s.memberType ++ ">" ++ s.preparedOverrides
      ++ "\n    : " ++ l.argument s ++ " & \x7b " ++ s.unpreparedOverrides ++ " \x7d)"
      ++ s.configExtra
  | _ => ": Omit<" ++ l.argument s ++ ", " ++ s.omitted ++ ">" ++ s.configExtra

/-- The type arguments of the call. -/
def typeArguments (l : Layout) (s : Slots) : String :=
  match l with
  | .write => "<TMode, " ++ s.abiType ++ ", " ++ s.memberType ++ ">"
  | _ => ""

/-- The type that the argument of the call is given. -/
def argumentType (l : Layout) (s : Slots) : String :=
  match l with
  | .contract => ""
  | .write => " as any"
  | _ => " as " ++ l.argument s

/-- The declaration of a layout with its slots filled. -/
def declaration (l : Layout) (s : Slots) : Declaration where
  docComment := s.docComment
  hookName := s.hookName
  typeParameters := l.typeParameters s
  configType := l.configType s
  preamble := s.preamble
  primitive := l.primitive
  typeArguments := l.typeArguments s
  fields := s.fields
  argumentType := l.argumentType s

/-- The text of a layout with its slots filled. -/
def render (l : Layout) (annotated : Bool) (s : Slots) : String :=
  (l.declaration s).code.text annotated

end Layout

end ContractHooks.Hook
