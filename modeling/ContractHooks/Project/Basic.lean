-- A project: where the module goes, in which dialect it is written, which hooks are wanted,
-- and an entry for each contract. A project that no run could succeed on is refused.
import ContractHooks.Contract.Basic
import ContractHooks.Error
import ContractHooks.Files.Path
import ContractHooks.Hook.Dialect
import ContractHooks.Hook.Kind
import ContractHooks.Text.Blank
import ContractHooks.Text.Hex

namespace ContractHooks

/-- A contract as a project names it. Its interface is in a file. -/
structure Entry where
  name : String
  abi : String
  address : Option Address
  abiName : Option String
  addressName : Option String
  configName : Option String
  deriving Repr, DecidableEq

namespace Entry

/-- The names of the constants: the chosen ones, and the standard ones for the rest. -/
def constants (e : Entry) : ConstantNames :=
  let standard := ConstantNames.standard e.name e.address.isSome
  { abi := e.abiName.getD standard.abi
    address := e.addressName.or standard.address
    config := e.configName.or standard.config }

/-- The contract of an entry with an interface. -/
def contract (e : Entry) (abi : List Abi.Item) : Contract where
  name := e.name
  abi := abi
  address := e.address
  constants := e.constants

end Entry

/-- A project. -/
structure Project where
  out : Option String
  dialect : Dialect
  toggles : Hook.Toggles
  entries : List Entry
  deriving Repr, DecidableEq

namespace Project

/-- The path of the module, seen from where the project's base folder is. -/
def outputPath (p : Project) (base : String) : String :=
  Files.join base (p.out.getD ("src/generated." ++ p.dialect.fileExtension))

/-! ## Validity -/

/-- Whether the text is an address: `0x` and twenty bytes in hexadecimal. -/
def isAddress (s : String) : Bool :=
  match s.toList with
  | '0' :: 'x' :: digits =>
    (String.ofList digits).utf8ByteSize == 40 && (Text.bytesOfHex? digits).isSome
  | _ => false

/-- The texts that have to be addresses, by ascending chain id. -/
def addressTexts : Option Address → List String
  | none => []
  | some (.single s) => [s]
  | some (.deployments d) => d.entries.map Prod.snd

/-- Refuses the first text that is no address. -/
def checkAddresses (contract : String) : List String → Except Error Unit
  | [] => .ok ()
  | s :: rest =>
    if isAddress s then checkAddresses contract rest else .error (.invalidAddress contract s)

/-- Refuses the first entry without a name or with a text that is no address. -/
def checkEntries : List Entry → Except Error Unit
  | [] => .ok ()
  | e :: rest =>
    if Text.isAllBlank e.name then .error .unnamedContract
    else
      match checkAddresses e.name (addressTexts e.address) with
      | .error e => .error e
      | .ok () => checkEntries rest

/-- Refuses a project that no run could succeed on. -/
def validate (p : Project) : Except Error Unit :=
  if p.entries.isEmpty then .error .noContracts else checkEntries p.entries

end Project

end ContractHooks
