-- Why a run fails, and how that is told. Every failure names its cause; the wording is here
-- and nowhere else.
import ContractHooks.Json.Cursor

namespace ContractHooks

/-! ## Files -/

/-- Why a file could not be read or written. -/
inductive FileFault
  | missing
  | occupied
  | notFolder
  | isFolder
  | nameTooLong
  | zeroInName
  | notText
  | other (description : String)
  deriving Repr, DecidableEq

/-- The wording of a file fault. -/
def FileFault.message : FileFault → String
  | .missing => "No such file or directory (os error 2)"
  | .occupied => "File exists (os error 17)"
  | .notFolder => "Not a directory (os error 20)"
  | .isFolder => "Is a directory (os error 21)"
  | .nameTooLong => "File name too long (os error 36)"
  | .zeroInName => "file name contained an unexpected NUL byte"
  | .notText => "stream did not contain valid UTF-8"
  | .other description => description

/-! ## Interfaces of contracts -/

/-- What is wrong with a JSON value that should describe the interface of a contract. -/
inductive AbiFault
  | notList
  | unnamedFunction
  | unnamedEvent
  | unnamedError
  | untypedParameter
  | unknownMutability (word : String)
  deriving Repr, DecidableEq

/-- The wording of an interface fault. -/
def AbiFault.message : AbiFault → String
  | .notList => "ABI must be an array"
  | .unnamedFunction => "Function must have a name"
  | .unnamedEvent => "Event must have a name"
  | .unnamedError => "Error must have a name"
  | .untypedParameter => "Parameter must have a type"
  | .unknownMutability word => "Unknown stateMutability '" ++ word ++ "'"

/-! ## Metadata of contracts -/

/-- How the names of the constants contradict the address of a contract. -/
inductive MetadataFault
  | addressWithoutName
  | nameWithoutAddress
  | deploymentsWithoutConfig
  deriving Repr, DecidableEq

/-- The wording of a metadata fault. -/
def MetadataFault.message : MetadataFault → String
  | .addressWithoutName => "`address` is set but `addressName` is missing"
  | .nameWithoutAddress => "`addressName` is set but `address` is missing"
  | .deploymentsWithoutConfig => "multichain `address` requires `configName`"

/-! ## Runs -/

/-- Why a run fails. -/
inductive Error
  | abi (fault : AbiFault)
  | json (failure : Json.Failure)
  | file (fault : FileFault)
  | metadata (contract : String) (fault : MetadataFault)
  | duplicateHook (hook contract : String)
  | unknownLayout (name : String)
  | projectFile (path : String) (fault : FileFault)
  | projectToml (path : String)
  | projectJson (path : String) (failure : Json.Failure)
  | projectFormat
  | noContracts
  | unnamedContract
  | invalidAddress (contract address : String)
  | contractAbi (contract path : String) (cause : Error)
  deriving Repr, DecidableEq

namespace Error

/-- What an error is about. -/
inductive Kind
  | abi
  | configuration
  | metadata
  | duplicateHook
  | template
  | file
  | json
  deriving Repr, DecidableEq

/-- The kind of an error. -/
def kind : Error → Kind
  | .abi _ => .abi
  | .json _ => .json
  | .file _ => .file
  | .metadata _ _ => .metadata
  | .duplicateHook _ _ => .duplicateHook
  | .unknownLayout _ => .template
  | _ => .configuration

/-- The wording of an error. -/
def message : Error → String
  | .abi fault => "Failed to parse ABI: " ++ fault.message
  | .json failure => "Serialization error: " ++ failure.message
  | .file fault => "IO error: " ++ fault.message
  | .metadata contract fault =>
    "Invalid metadata for contract \"" ++ contract ++ "\": " ++ fault.message
  | .duplicateHook hook contract =>
    "Hook name \"" ++ hook ++ "\" must be unique for contract \"" ++ contract ++ "\"."
  | .unknownLayout name =>
    "Template error: Failed to render template " ++ name ++ ": Template not found: " ++ name
  | .projectFile path fault =>
    "Configuration error: Failed to read project file " ++ path ++ ": " ++ fault.message
  | .projectToml path => "Configuration error: Failed to parse TOML project file " ++ path
  | .projectJson path failure =>
    "Configuration error: Failed to parse JSON project file " ++ path ++ ": " ++ failure.message
  | .projectFormat =>
    "Configuration error: Unsupported project file format. Supported formats: .toml, .json"
  | .noContracts => "Configuration error: Project file declares no contracts"
  | .unnamedContract => "Configuration error: Contract name cannot be empty"
  | .invalidAddress contract address =>
    "Configuration error: Contract " ++ contract ++ " has an invalid address '" ++ address
      ++ "' (expected 0x followed by 40 hex characters)"
  | .contractAbi contract path cause =>
    "Configuration error: Failed to load ABI for " ++ contract ++ " from " ++ path ++ ": "
      ++ cause.message

end Error

end ContractHooks
