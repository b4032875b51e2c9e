-- Canonical signatures: the name and the types of the inputs, with every tuple spelled out by
-- the types of its components. A function is called by the first four bytes of the Keccak
-- digest of its signature.
import ContractHooks.Abi.Basic
import ContractHooks.Digest.Keccak
import ContractHooks.Text.Hex

namespace ContractHooks.Abi

/-- What follows `tuple` in the type of a tuple or of an array of tuples. -/
def tupleSuffix? (type : String) : Option String :=
  if "tuple".toList.isPrefixOf type.toList then some (String.ofList (type.toList.drop 5))
  else none

/-- Whether the type is a tuple or an array of tuples. -/
def isTuple (type : String) : Bool := (tupleSuffix? type).isSome

mutual

/-- The canonical type of a parameter. -/
def Parameter.canonicalType : Parameter → String
  | ⟨_, type, _, some components, _⟩ =>
    match tupleSuffix? type with
    | some suffix => "(" ++ String.intercalate "," (canonicalTypes components) ++ ")" ++ suffix
    | none => type
  | ⟨_, type, _, none, _⟩ => type

/-- The canonical types of parameters. -/
def canonicalTypes : List Parameter → List String
  | [] => []
  | p :: ps => p.canonicalType :: canonicalTypes ps

end

theorem canonicalTypes_eq_map (ps : List Parameter) :
    canonicalTypes ps = ps.map Parameter.canonicalType := by
  induction ps with
  | nil => simp [canonicalTypes]
  | cons p ps ih => simp [canonicalTypes, ih]

/-- The signature of a name with inputs. -/
def signature (name : String) (inputs : List Parameter) : String :=
  name ++ "(" ++ String.intercalate "," (canonicalTypes inputs) ++ ")"

/-- The signature of a function. -/
def Function.signature (f : Function) : String := Abi.signature f.name f.inputs

/-- The signature of an event. -/
def Event.signature (e : Event) : String := Abi.signature e.name e.inputs

/-- The selector of a signature. -/
def selector (signature : String) : String :=
  "0x" ++ Text.hexOfBytes ((Digest.keccak256 signature.toUTF8.toList).take 4)

/-- The selector of a function. -/
def Function.selector (f : Function) : String := Abi.selector f.signature

end ContractHooks.Abi
